import Mathlib.Order.Bounds.Basic
import Toolpath.Proofs.Box
import Toolpath.Proofs.Rows

/-!
The box of some buffers is the least one around their finite rows. It is unique but for the signs of
zeros (`Box.Least.unique`), so neither order nor distribution matters.
-/

namespace Toolpath

namespace Binary

variable {format : Format} {left right : Binary format}

@[simp] theorem place_unsignedZero (number : Binary format) :
    number.unsignedZero.place = number.place := by
  cases number with
  | nan => rfl
  | infinite negative => rfl
  | finite negative steps exact =>
      rcases Nat.eq_zero_or_pos steps with rfl | positive
      · cases negative <;> rfl
      · have nonzero : (steps != 0) = true := bne_iff_ne.mpr (Nat.ne_of_gt positive)
        simp only [unsignedZero, nonzero, Bool.and_true]

theorem unsignedZero_eq (leftFinite : left.isFinite = true) (rightFinite : right.isFinite = true)
    (same : left.place = right.place) : left.unsignedZero = right.unsignedZero := by
  obtain ⟨negative, steps, exact, rfl⟩ := exists_eq_finite leftFinite
  obtain ⟨other, more, exactMore, rfl⟩ := exists_eq_finite rightFinite
  by_cases zero : (finite negative steps exact).place = 0
  · have steps_zero : steps = 0 := by simpa [place, natAbs_signed] using congrArg Int.natAbs zero
    have more_zero : more = 0 := by
      simpa [place, natAbs_signed] using congrArg Int.natAbs (same.symm.trans zero)
    subst steps_zero more_zero
    simp [unsignedZero]
  · rw [eq_of_place_eq rfl rfl same zero]

end Binary

theorem Vertex.unsignedZeros_eq {left right : Vertex} (leftFinite : left.isFinite = true)
    (rightFinite : right.isFinite = true)
    (same : ∀ coordinate ∈ coordinates, (coordinate left).place = (coordinate right).place) :
    left.unsignedZeros = right.unsignedZeros := by
  have each (coordinate : Vertex → Single) (listed : coordinate ∈ coordinates) :
      (coordinate left).unsignedZero = (coordinate right).unsignedZero :=
    Binary.unsignedZero_eq (isFinite_iff_coordinates.mp leftFinite coordinate listed)
      (isFinite_iff_coordinates.mp rightFinite coordinate listed) (same coordinate listed)
  rw [unsignedZeros, unsignedZeros, each x (by simp [coordinates]),
    each y (by simp [coordinates]), each z (by simp [coordinates])]

namespace Box

def unsignedZeros (box : Box) : Box := ⟨box.low.unsignedZeros, box.high.unsignedZeros⟩

def Holds (box : Box) (vertex : Vertex) : Prop :=
  ∀ coordinate ∈ [Vertex.x, Vertex.y, Vertex.z],
    coordinate box.low ≤ coordinate vertex ∧ coordinate vertex ≤ coordinate box.high

def places (coordinate : Vertex → Single) (vertices : List Vertex) : Set Int :=
  {place | ∃ vertex ∈ vertices, (coordinate vertex).place = place}

variable {box other : Box} {coordinate : Vertex → Single} {vertices others : List Vertex}

theorem Spans.isLeast (spans : box.Spans coordinate vertices) :
    IsLeast (places coordinate vertices) (coordinate box.low).place := by
  constructor
  · obtain ⟨vertex, listed, same⟩ := spans.low_mem
    exact ⟨vertex, listed, by rw [same]⟩
  · rintro _ ⟨vertex, listed, rfl⟩
    exact spans.low_le vertex listed

theorem Spans.isGreatest (spans : box.Spans coordinate vertices) :
    IsGreatest (places coordinate vertices) (coordinate box.high).place := by
  constructor
  · obtain ⟨vertex, listed, same⟩ := spans.high_mem
    exact ⟨vertex, listed, by rw [same]⟩
  · rintro _ ⟨vertex, listed, rfl⟩
    exact spans.le_high vertex listed

/-- There is only one least box around some vertices, but for the signs of zeros. -/
theorem Least.unique (least : box.Least vertices) (otherLeast : other.Least vertices) :
    box.unsignedZeros = other.unsignedZeros := by
  have low : box.low.unsignedZeros = other.low.unsignedZeros :=
    Vertex.unsignedZeros_eq least.low_isFinite otherLeast.low_isFinite fun _ listed =>
      (least.spans listed).isLeast.unique (otherLeast.spans listed).isLeast
  have high : box.high.unsignedZeros = other.high.unsignedZeros :=
    Vertex.unsignedZeros_eq least.high_isFinite otherLeast.high_isFinite fun _ listed =>
      (least.spans listed).isGreatest.unique (otherLeast.spans listed).isGreatest
  rw [unsignedZeros, unsignedZeros, low, high]

theorem Least.holds (least : box.Least vertices)
    (finite : ∀ vertex ∈ vertices, vertex.isFinite = true) :
    ∀ vertex ∈ vertices, box.Holds vertex := by
  intro vertex member coordinate listed
  have spans := least.spans listed
  have isFinite := isFinite_coordinate finite listed
  constructor
  · exact (Binary.le_iff_place (spans.low_isFinite isFinite) (isFinite vertex member)).mpr
      (spans.low_le vertex member)
  · exact (Binary.le_iff_place (isFinite vertex member) (spans.high_isFinite isFinite)).mpr
      (spans.le_high vertex member)

theorem Least.holds_corners (least : box.Least vertices)
    (holds : ∀ vertex ∈ vertices, other.Holds vertex) :
    other.Holds box.low ∧ other.Holds box.high := by
  constructor <;> intro coordinate listed
  · obtain ⟨vertex, member, same⟩ := (least.spans listed).low_mem
    rw [same]
    exact holds vertex member coordinate listed
  · obtain ⟨vertex, member, same⟩ := (least.spans listed).high_mem
    rw [same]
    exact holds vertex member coordinate listed

theorem ofVertices?_eq_none_iff : ofVertices? vertices = none ↔ vertices = [] := by
  cases vertices <;> simp [ofVertices?]

theorem ofVertices?_congr (finite : ∀ vertex ∈ vertices, vertex.isFinite = true)
    (same : ∀ vertex, vertex ∈ vertices ↔ vertex ∈ others) :
    (ofVertices? vertices).map unsignedZeros = (ofVertices? others).map unsignedZeros := by
  by_cases empty : vertices = []
  · have none : others = [] := by
      rw [List.eq_nil_iff_forall_not_mem] at empty ⊢
      exact fun vertex listed => empty vertex ((same vertex).mpr listed)
    rw [empty, none]
  · have filled : others ≠ [] := by
      obtain ⟨vertex, listed⟩ := List.exists_mem_of_ne_nil _ empty
      exact List.ne_nil_of_mem ((same vertex).mp listed)
    obtain ⟨box, found⟩ := exists_ofVertices? empty
    obtain ⟨other, otherFound⟩ := exists_ofVertices? filled
    have least := (least_of_ofVertices? found finite).congr same
    have otherLeast := least_of_ofVertices? otherFound fun vertex listed =>
      finite vertex ((same vertex).mpr listed)
    rw [found, otherFound, Option.map_some, Option.map_some, least.unique otherLeast]

theorem ofVertices?_append (finite : ∀ vertex ∈ vertices ++ others, vertex.isFinite = true) :
    (ofVertices? (vertices ++ others)).map unsignedZeros =
      ((ofVertices? vertices).merge hull (ofVertices? others)).map unsignedZeros := by
  by_cases empty : vertices = []
  · rw [empty, List.nil_append, ofVertices?_eq_none_iff.mpr rfl, Option.merge_none_left]
  by_cases otherEmpty : others = []
  · rw [otherEmpty, List.append_nil, ofVertices?_eq_none_iff.mpr rfl, Option.merge_none_right]
  obtain ⟨box, found⟩ := exists_ofVertices? empty
  obtain ⟨other, otherFound⟩ := exists_ofVertices? otherEmpty
  obtain ⟨both, bothFound⟩ := exists_ofVertices? (List.append_ne_nil_of_left_ne_nil empty others)
  have parts := List.forall_mem_append.mp finite
  have least := (least_of_ofVertices? found parts.1).hull
    (least_of_ofVertices? otherFound parts.2) finite
  rw [found, otherFound, bothFound, Option.merge_some_some, Option.map_some, Option.map_some,
    (least_of_ofVertices? bothFound finite).unique least]

end Box

def finiteRows (buffers : List Buffer) : List Vertex :=
  (buffers.flatMap Buffer.vertices).filter Vertex.isFinite

theorem isFinite_of_mem_finiteRows {buffers : List Buffer} :
    ∀ vertex ∈ finiteRows buffers, vertex.isFinite = true :=
  fun _ listed => (List.mem_filter.mp listed).2

namespace Buffer

theorem mem_vertices_finite {buffer : Buffer} {vertex : Vertex}
    (listed : vertex ∈ buffer.finite.vertices) :
    vertex ∈ buffer.vertices ∧ vertex.isFinite = true := by
  obtain ⟨edge, kept, inside⟩ := List.mem_flatMap.mp listed
  obtain ⟨held, finite⟩ := List.mem_filter.mp kept
  exact ⟨List.mem_flatMap.mpr ⟨edge, held, inside⟩, Edge.isFinite_iff.mp finite vertex inside⟩

theorem finiteRows_finite {buffers : List Buffer} {vertex : Vertex}
    (listed : vertex ∈ finiteRows (buffers.map finite)) : vertex ∈ finiteRows buffers := by
  obtain ⟨held, isFinite⟩ := List.mem_filter.mp listed
  obtain ⟨_, mapped, inside⟩ := List.mem_flatMap.mp held
  obtain ⟨buffer, member, rfl⟩ := List.mem_map.mp mapped
  exact List.mem_filter.mpr
    ⟨List.mem_flatMap.mpr ⟨buffer, member, (mem_vertices_finite inside).1⟩, isFinite⟩

end Buffer

/-- The box of some buffers is the least one around their finite rows, and there is none exactly when
no row is finite. But for the signs of zeros it does not depend on the order of the rows and on how
they are distributed over buffers, the box of two lists of buffers is the hull of their two boxes,
and the two forms of a geometry have one box. Without the edges that are not finite it does not
grow. -/
theorem bounds_least (buffers : List Buffer) :
    (Box.ofBuffers? buffers = none ↔
      ∀ vertex ∈ buffers.flatMap Buffer.vertices, vertex.isFinite = false) ∧
    (∀ box, Box.ofBuffers? buffers = some box → box.Least (finiteRows buffers) ∧
      ∀ vertex ∈ finiteRows buffers, box.Holds vertex) ∧
    (∀ others : List Buffer,
      (others.flatMap Buffer.vertices).Perm (buffers.flatMap Buffer.vertices) →
        (Box.ofBuffers? others).map Box.unsignedZeros =
          (Box.ofBuffers? buffers).map Box.unsignedZeros) ∧
    (∀ others, (Box.ofBuffers? (buffers ++ others)).map Box.unsignedZeros =
      ((Box.ofBuffers? buffers).merge Box.hull (Box.ofBuffers? others)).map Box.unsignedZeros) ∧
    (∀ layers yUp, (Box.ofBuffers? (Buffer.ofGeometry ⟨layers, true⟩ yUp)).map Box.unsignedZeros =
      (Box.ofBuffers? (Buffer.ofGeometry ⟨layers, false⟩ yUp)).map Box.unsignedZeros) ∧
    ∀ inner, Box.ofBuffers? (buffers.map Buffer.finite) = some inner →
      ∃ outer, Box.ofBuffers? buffers = some outer ∧ outer.Holds inner.low ∧
        outer.Holds inner.high := by
  refine ⟨?_, fun box found => ?_, fun others regrouped => ?_, fun others => ?_,
    fun layers yUp => ?_, fun inner found => ?_⟩
  · rw [Box.ofBuffers?, Box.ofVertices?_eq_none_iff, List.filter_eq_nil_iff]
    simp only [Bool.not_eq_true]
  · have least := Box.least_of_ofVertices? found isFinite_of_mem_finiteRows
    exact ⟨least, least.holds isFinite_of_mem_finiteRows⟩
  · exact Box.ofVertices?_congr isFinite_of_mem_finiteRows fun _ =>
      (regrouped.filter Vertex.isFinite).mem_iff
  · have rows : finiteRows (buffers ++ others) = finiteRows buffers ++ finiteRows others := by
      rw [finiteRows, List.flatMap_append, List.filter_append]
      rfl
    have finite : ∀ vertex ∈ finiteRows (buffers ++ others), vertex.isFinite = true :=
      isFinite_of_mem_finiteRows
    rw [rows] at finite
    have joined := Box.ofVertices?_append finite
    rwa [← rows] at joined
  · refine Box.ofVertices?_congr isFinite_of_mem_finiteRows fun vertex => ?_
    rw [List.mem_filter, List.mem_filter, Buffer.mem_vertices_ofGeometry,
      Buffer.mem_vertices_ofGeometry]
  · have least := Box.least_of_ofVertices? found isFinite_of_mem_finiteRows
    obtain ⟨vertex, listed, -⟩ := least.spans_x.low_mem
    have filled := List.ne_nil_of_mem (Buffer.finiteRows_finite listed)
    obtain ⟨outer, outerFound⟩ := Box.exists_ofVertices? filled
    have outerLeast := Box.least_of_ofVertices? outerFound isFinite_of_mem_finiteRows
    have holds := outerLeast.holds isFinite_of_mem_finiteRows
    exact ⟨outer, outerFound, least.holds_corners fun vertex listed =>
      holds vertex (Buffer.finiteRows_finite listed)⟩

theorem bounds_least_of_overflow :
    let geometry := Geometry.ofText .standard "G1 X10 Y5 E1\nG1 X1e39 E2\nG1 X2 Y-3 E3\n" none
    let buffers := Buffer.ofGeometry geometry false
    let box : Box := ⟨⟨0, -3, 0⟩, ⟨10, 5, 0⟩⟩
    let inner : Box := ⟨⟨0, 0, 0⟩, ⟨10, 5, 0⟩⟩
    Box.ofBuffers? buffers = some box ∧ box.Least (finiteRows buffers) ∧
      (buffers.reverse.flatMap Buffer.vertices).Perm (buffers.flatMap Buffer.vertices) ∧
      (Box.ofBuffers? buffers.reverse).map Box.unsignedZeros = some box.unsignedZeros ∧
      Box.ofBuffers? (buffers.map Buffer.finite) = some inner ∧
      box.Holds inner.low ∧ box.Holds inner.high := by
  intro geometry buffers box inner
  have found : Box.ofBuffers? buffers = some box := by decide +kernel
  have innerFound : Box.ofBuffers? (buffers.map Buffer.finite) = some inner := by decide +kernel
  have regrouped : (buffers.reverse.flatMap Buffer.vertices).Perm
      (buffers.flatMap Buffer.vertices) := (List.reverse_perm buffers).flatMap_right _
  obtain ⟨-, least, reordered, -, -, inside⟩ := bounds_least buffers
  obtain ⟨outer, outerFound, low, high⟩ := inside inner innerFound
  obtain rfl : outer = box := Option.some.inj (outerFound.symm.trans found)
  refine ⟨found, (least _ found).1, regrouped, ?_, innerFound, low, high⟩
  rw [reordered _ regrouped, found]
  rfl

end Toolpath
