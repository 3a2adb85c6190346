import Mathlib.Algebra.GroupWithZero.Nat
import Toolpath.Vertex

/-! How the rows of buffers are ordered: layer by layer, and kind by kind in each. -/

namespace Toolpath

section Width

variable {α β : Type} {pieces : α → List β} {width : Nat}

theorem length_flatMap_of_width (fixed : ∀ item, (pieces item).length = width) (items : List α) :
    (items.flatMap pieces).length = width * items.length := by
  induction items with
  | nil => rfl
  | cons item rest ih =>
      rw [List.flatMap_cons, List.length_append, ih, fixed, List.length_cons, Nat.mul_succ,
        Nat.add_comm]

theorem getElem?_flatMap_of_width (fixed : ∀ item, (pieces item).length = width) (items : List α)
    (index : Nat) {place : Nat} (within : place < width) :
    (items.flatMap pieces)[width * index + place]? =
      items[index]?.bind fun item => (pieces item)[place]? := by
  induction items generalizing index with
  | nil => rfl
  | cons item rest ih =>
      have first := fixed item
      rw [List.flatMap_cons]
      cases index with
      | zero =>
          rw [Nat.mul_zero, Nat.zero_add, List.getElem?_append_left (by omega)]
          rfl
      | succ index =>
          have shifted : width * (index + 1) + place - (pieces item).length =
              width * index + place := by
            rw [first, Nat.mul_succ]
            omega
          rw [List.getElem?_append_right (by rw [Nat.mul_succ]; omega), shifted, ih]
          rfl

end Width

theorem Edge.length_vertices (edge : Edge) : edge.vertices.length = 2 := rfl

theorem Kind.mem_all (kind : Kind) : kind ∈ all := by cases kind <;> decide

namespace Buffer

theorem length_vertices (buffer : Buffer) : buffer.vertices.length = 2 * buffer.count :=
  length_flatMap_of_width Edge.length_vertices buffer.edges

theorem vertices_even (buffer : Buffer) (index : Nat) :
    buffer.vertices[2 * index]? = buffer.edges[index]?.map Edge.start := by
  have row := getElem?_flatMap_of_width Edge.length_vertices buffer.edges index Nat.two_pos
  rw [Nat.add_zero] at row
  exact row.trans Option.map_eq_bind.symm

theorem vertices_odd (buffer : Buffer) (index : Nat) :
    buffer.vertices[2 * index + 1]? = buffer.edges[index]?.map Edge.stop := by
  have row := getElem?_flatMap_of_width Edge.length_vertices buffer.edges index Nat.one_lt_two
  exact row.trans Option.map_eq_bind.symm

theorem filter_kind_map (buffer : Kind → Buffer) (sorted : ∀ kind, (buffer kind).kind = kind)
    (kind : Kind) : (Kind.all.map buffer).filter (·.kind = kind) = [buffer kind] := by
  cases kind <;> simp [Kind.all, sorted]

variable (layers : List Layer) (yUp : Bool)

/-- The buffers of a layer, named after its index. -/
def ofLayer (index : Nat) (layer : Layer) : List Buffer :=
  Kind.all.map fun kind => ofSegments (nameOf index) kind yUp (layer.segments kind)

/-- The one buffer of a kind for all layers, named after their number. -/
def joined (kind : Kind) : Buffer :=
  ofSegments (nameOf layers.length) kind yUp (layers.flatMap (·.segments kind))

theorem length_ofLayer (index : Nat) (layer : Layer) : (ofLayer yUp index layer).length = 3 := rfl

theorem ofGeometry_split : ofGeometry ⟨layers, true⟩ yUp =
    layers.zipIdx.flatMap fun indexed => ofLayer yUp indexed.2 indexed.1 := rfl

theorem ofGeometry_flat :
    ofGeometry ⟨layers, false⟩ yUp = Kind.all.map (joined layers yUp) := by
  apply List.map_congr_left
  intro kind _
  rw [Flattened.segments_ofLayers]
  rfl

theorem length_ofGeometry_split : (ofGeometry ⟨layers, true⟩ yUp).length = 3 * layers.length := by
  rw [ofGeometry_split, length_flatMap_of_width fun _ => length_ofLayer .., List.length_zipIdx]

theorem getElem?_ofGeometry_split (index : Nat) {place : Nat} (within : place < 3) :
    (ofGeometry ⟨layers, true⟩ yUp)[3 * index + place]? =
      layers[index]?.bind fun layer => (ofLayer yUp index layer)[place]? := by
  rw [ofGeometry_split, getElem?_flatMap_of_width (fun _ => length_ofLayer ..) _ _ within,
    List.getElem?_zipIdx, Nat.zero_add, Option.bind_map]
  rfl

theorem edges_filter_kind (kind : Kind) :
    ((ofGeometry ⟨layers, true⟩ yUp).filter (·.kind = kind)).flatMap edges =
      (joined layers yUp kind).edges := by
  let placed (layer : Layer) : List Edge := (layer.segments kind).map (Edge.ofSegment yUp)
  have single (indexed : Layer × Nat) :
      (ofLayer yUp indexed.2 indexed.1).filter (·.kind = kind) =
        [ofSegments (nameOf indexed.2) kind yUp (indexed.1.segments kind)] :=
    filter_kind_map _ (fun _ => rfl) kind
  calc ((ofGeometry ⟨layers, true⟩ yUp).filter (·.kind = kind)).flatMap edges
      = layers.zipIdx.flatMap fun indexed => placed indexed.1 := by
        rw [ofGeometry_split, List.filter_flatMap, List.flatMap_assoc]
        simp only [single, List.flatMap_singleton, ofSegments, placed]
    _ = layers.flatMap placed := by
        rw [← List.flatMap_map Prod.fst placed, List.zipIdx_map_fst]
    _ = (joined layers yUp kind).edges := List.map_flatMap.symm

theorem vertices_joined (kind : Kind) : (joined layers yUp kind).vertices =
    ((ofGeometry ⟨layers, true⟩ yUp).filter (·.kind = kind)).flatMap vertices := by
  rw [vertices, ← edges_filter_kind, List.flatMap_assoc]
  rfl

theorem mem_vertices_ofGeometry (splitLayers : Bool) {vertex : Vertex} :
    vertex ∈ (ofGeometry ⟨layers, splitLayers⟩ yUp).flatMap vertices ↔
      ∃ kind, vertex ∈ (joined layers yUp kind).vertices := by
  cases splitLayers with
  | false =>
      rw [ofGeometry_flat, List.flatMap_map, List.mem_flatMap]
      exact ⟨fun ⟨kind, _, inside⟩ => ⟨kind, inside⟩,
        fun ⟨kind, inside⟩ => ⟨kind, kind.mem_all, inside⟩⟩
  | true =>
      simp only [vertices_joined, List.mem_flatMap, List.mem_filter, decide_eq_true_eq]
      constructor
      · rintro ⟨buffer, listed, inside⟩
        exact ⟨buffer.kind, buffer, ⟨listed, rfl⟩, inside⟩
      · rintro ⟨kind, buffer, ⟨listed, -⟩, inside⟩
        exact ⟨buffer, listed, inside⟩

theorem count_joined (kind : Kind) (splitLayers : Bool) :
    (joined layers yUp kind).count = Geometry.count ⟨layers, splitLayers⟩ kind :=
  List.length_map _

end Buffer

end Toolpath
