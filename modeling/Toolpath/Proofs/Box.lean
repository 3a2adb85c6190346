import Toolpath.Proofs.Rounding
import Toolpath.Vertex

/-! The least box around some vertices, coordinate by coordinate (`Box.Spans`). -/

namespace Toolpath

namespace Binary

variable {format : Format} {left right : Binary format}

theorem lesser_eq_or (left right : Binary format) :
    left.lesser right = left ∨ left.lesser right = right := by
  unfold lesser
  split
  · exact Or.inl rfl
  · exact Or.inr rfl

theorem greater_eq_or (left right : Binary format) :
    left.greater right = left ∨ left.greater right = right := by
  unfold greater
  split
  · exact Or.inl rfl
  · exact Or.inr rfl

theorem place_lesser (leftFinite : left.isFinite = true) (rightFinite : right.isFinite = true) :
    (left.lesser right).place = min left.place right.place := by
  unfold lesser
  split
  · rename_i order
    have less := (lt_iff_place leftFinite rightFinite).mp order
    omega
  · rename_i order
    have notLess := mt (lt_iff_place leftFinite rightFinite).mpr order
    omega

theorem place_greater (leftFinite : left.isFinite = true) (rightFinite : right.isFinite = true) :
    (left.greater right).place = max left.place right.place := by
  unfold greater
  split
  · rename_i order
    have less := (lt_iff_place rightFinite leftFinite).mp order
    omega
  · rename_i order
    have notLess := mt (lt_iff_place rightFinite leftFinite).mpr order
    omega

end Binary

/-- Holds of a coordinate that is combined by itself when vertices are. -/
def Vertex.Separate (coordinate : Vertex → Single) : Prop :=
  ∀ (combine : Single → Single → Single) (left right : Vertex),
    coordinate (left.zipWith combine right) = combine (coordinate left) (coordinate right)

namespace Vertex

def coordinates : List (Vertex → Single) := [x, y, z]

theorem isFinite_iff_coordinates {vertex : Vertex} : vertex.isFinite = true ↔
    ∀ coordinate ∈ coordinates, (coordinate vertex).isFinite = true := by
  simp [isFinite_iff, coordinates]

theorem separate_of_mem {coordinate : Vertex → Single} (listed : coordinate ∈ coordinates) :
    Separate coordinate := by
  simp only [coordinates, List.mem_cons, List.not_mem_nil, or_false] at listed
  rcases listed with rfl | rfl | rfl <;> exact fun _ _ _ => rfl

end Vertex

namespace Box

structure Spans (box : Box) (coordinate : Vertex → Single) (vertices : List Vertex) : Prop where
  low_mem : ∃ vertex ∈ vertices, coordinate box.low = coordinate vertex
  high_mem : ∃ vertex ∈ vertices, coordinate box.high = coordinate vertex
  low_le : ∀ vertex ∈ vertices, (coordinate box.low).place ≤ (coordinate vertex).place
  le_high : ∀ vertex ∈ vertices, (coordinate vertex).place ≤ (coordinate box.high).place

variable {box : Box} {coordinate : Vertex → Single} {vertices : List Vertex}

theorem Spans.low_isFinite (spans : box.Spans coordinate vertices)
    (finite : ∀ vertex ∈ vertices, (coordinate vertex).isFinite = true) :
    (coordinate box.low).isFinite = true := by
  obtain ⟨vertex, listed, same⟩ := spans.low_mem
  rw [same]
  exact finite vertex listed

theorem Spans.high_isFinite (spans : box.Spans coordinate vertices)
    (finite : ∀ vertex ∈ vertices, (coordinate vertex).isFinite = true) :
    (coordinate box.high).isFinite = true := by
  obtain ⟨vertex, listed, same⟩ := spans.high_mem
  rw [same]
  exact finite vertex listed

theorem Spans.congr {others : List Vertex} (spans : box.Spans coordinate vertices)
    (same : ∀ vertex, vertex ∈ vertices ↔ vertex ∈ others) : box.Spans coordinate others := by
  obtain ⟨low_mem, high_mem, low_le, le_high⟩ := spans
  simp only [same] at low_mem high_mem low_le le_high
  exact ⟨low_mem, high_mem, low_le, le_high⟩

theorem spans_around (vertex : Vertex) : (around vertex).Spans coordinate [vertex] := by
  constructor <;> simp [around]

def hull (left right : Box) : Box :=
  ⟨left.low.zipWith .lesser right.low, left.high.zipWith .greater right.high⟩

theorem Spans.hull {other : Box} {others : List Vertex} (spans : box.Spans coordinate vertices)
    (otherSpans : other.Spans coordinate others) (separate : Vertex.Separate coordinate)
    (finite : ∀ vertex ∈ vertices ++ others, (coordinate vertex).isFinite = true) :
    (box.hull other).Spans coordinate (vertices ++ others) := by
  rw [List.forall_mem_append] at finite
  have low : coordinate (box.hull other).low =
      (coordinate box.low).lesser (coordinate other.low) := separate _ _ _
  have high : coordinate (box.hull other).high =
      (coordinate box.high).greater (coordinate other.high) := separate _ _ _
  have lowPlace := Binary.place_lesser (spans.low_isFinite finite.1)
    (otherSpans.low_isFinite finite.2)
  have highPlace := Binary.place_greater (spans.high_isFinite finite.1)
    (otherSpans.high_isFinite finite.2)
  rw [← low] at lowPlace
  rw [← high] at highPlace
  constructor
  · rcases Binary.lesser_eq_or (coordinate box.low) (coordinate other.low) with kept | replaced
    · obtain ⟨vertex, listed, same⟩ := spans.low_mem
      exact ⟨vertex, List.mem_append_left _ listed, by rw [low, kept, same]⟩
    · obtain ⟨vertex, listed, same⟩ := otherSpans.low_mem
      exact ⟨vertex, List.mem_append_right _ listed, by rw [low, replaced, same]⟩
  · rcases Binary.greater_eq_or (coordinate box.high) (coordinate other.high) with kept | replaced
    · obtain ⟨vertex, listed, same⟩ := spans.high_mem
      exact ⟨vertex, List.mem_append_left _ listed, by rw [high, kept, same]⟩
    · obtain ⟨vertex, listed, same⟩ := otherSpans.high_mem
      exact ⟨vertex, List.mem_append_right _ listed, by rw [high, replaced, same]⟩
  · intro vertex listed
    rcases List.mem_append.mp listed with old | new
    · have bound := spans.low_le vertex old
      omega
    · have bound := otherSpans.low_le vertex new
      omega
  · intro vertex listed
    rcases List.mem_append.mp listed with old | new
    · have bound := spans.le_high vertex old
      omega
    · have bound := otherSpans.le_high vertex new
      omega

theorem Spans.extend (spans : box.Spans coordinate vertices)
    (separate : Vertex.Separate coordinate) {added : Vertex}
    (finite : ∀ vertex ∈ vertices ++ [added], (coordinate vertex).isFinite = true) :
    (box.extend added).Spans coordinate (vertices ++ [added]) :=
  spans.hull (spans_around added) separate finite

theorem spans_foldl_extend (separate : Vertex.Separate coordinate) (added : List Vertex)
    (spans : box.Spans coordinate vertices)
    (finite : ∀ vertex ∈ vertices ++ added, (coordinate vertex).isFinite = true) :
    (added.foldl extend box).Spans coordinate (vertices ++ added) := by
  induction added generalizing box vertices with
  | nil => rwa [List.append_nil]
  | cons first rest ih =>
      rw [List.append_cons] at finite ⊢
      have extended : (box.extend first).Spans coordinate (vertices ++ [first]) :=
        spans.extend separate fun vertex listed => finite vertex (List.mem_append_left _ listed)
      exact ih extended finite

theorem spans_ofVertices? (found : ofVertices? vertices = some box)
    (separate : Vertex.Separate coordinate)
    (finite : ∀ vertex ∈ vertices, (coordinate vertex).isFinite = true) :
    box.Spans coordinate vertices := by
  cases vertices with
  | nil => simp [ofVertices?] at found
  | cons first rest =>
      simp only [ofVertices?, Option.some.injEq] at found
      subst found
      exact spans_foldl_extend separate rest (spans_around first) finite

/-- Holds of the least box around some finite vertices. -/
structure Least (box : Box) (vertices : List Vertex) : Prop where
  spans_x : box.Spans Vertex.x vertices
  spans_y : box.Spans Vertex.y vertices
  spans_z : box.Spans Vertex.z vertices
  low_isFinite : box.low.isFinite = true
  high_isFinite : box.high.isFinite = true

theorem Least.congr {others : List Vertex} (least : box.Least vertices)
    (same : ∀ vertex, vertex ∈ vertices ↔ vertex ∈ others) : box.Least others :=
  ⟨least.spans_x.congr same, least.spans_y.congr same, least.spans_z.congr same,
    least.low_isFinite, least.high_isFinite⟩

theorem Least.spans (least : box.Least vertices) (listed : coordinate ∈ Vertex.coordinates) :
    box.Spans coordinate vertices := by
  simp only [Vertex.coordinates, List.mem_cons, List.not_mem_nil, or_false] at listed
  rcases listed with rfl | rfl | rfl
  · exact least.spans_x
  · exact least.spans_y
  · exact least.spans_z

theorem isFinite_coordinate (finite : ∀ vertex ∈ vertices, vertex.isFinite = true)
    (listed : coordinate ∈ Vertex.coordinates) :
    ∀ vertex ∈ vertices, (coordinate vertex).isFinite = true :=
  fun vertex member => Vertex.isFinite_iff_coordinates.mp (finite vertex member) coordinate listed

theorem least_of_spans (finite : ∀ vertex ∈ vertices, vertex.isFinite = true)
    (spans : ∀ coordinate ∈ Vertex.coordinates, box.Spans coordinate vertices) :
    box.Least vertices where
  spans_x := spans Vertex.x (by simp [Vertex.coordinates])
  spans_y := spans Vertex.y (by simp [Vertex.coordinates])
  spans_z := spans Vertex.z (by simp [Vertex.coordinates])
  low_isFinite := Vertex.isFinite_iff_coordinates.mpr fun coordinate listed =>
    (spans coordinate listed).low_isFinite (isFinite_coordinate finite listed)
  high_isFinite := Vertex.isFinite_iff_coordinates.mpr fun coordinate listed =>
    (spans coordinate listed).high_isFinite (isFinite_coordinate finite listed)

theorem least_of_ofVertices? (found : ofVertices? vertices = some box)
    (finite : ∀ vertex ∈ vertices, vertex.isFinite = true) : box.Least vertices :=
  least_of_spans finite fun _ listed =>
    spans_ofVertices? found (Vertex.separate_of_mem listed) (isFinite_coordinate finite listed)

theorem Least.hull {other : Box} {others : List Vertex} (least : box.Least vertices)
    (otherLeast : other.Least others)
    (finite : ∀ vertex ∈ vertices ++ others, vertex.isFinite = true) :
    (box.hull other).Least (vertices ++ others) :=
  least_of_spans finite fun _ listed => (least.spans listed).hull (otherLeast.spans listed)
    (Vertex.separate_of_mem listed) (isFinite_coordinate finite listed)

theorem exists_ofVertices? (listed : vertices ≠ []) : ∃ box, ofVertices? vertices = some box := by
  cases vertices with
  | nil => exact absurd rfl listed
  | cons first rest => exact ⟨_, rfl⟩

end Box

end Toolpath
