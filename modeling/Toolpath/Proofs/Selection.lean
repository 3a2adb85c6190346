import Toolpath.Preview

/-! Which segments of a geometry a preview draws, in both forms alike. -/

namespace Toolpath

/-- The layers that a preview draws, in their order: those chosen by index if they are apart, and
otherwise all of them. -/
def Geometry.chosen (options : PreviewOptions) (geometry : Geometry) : List Layer :=
  if geometry.splitLayers then Selection.layers options geometry.layers else geometry.layers

/-- Holds of the segments that a preview is to draw. -/
def Drawn (options : PreviewOptions) (geometry : Geometry) (segment : Segment) : Prop :=
  ∃ kind ∈ options.kinds, ∃ (index : Nat) (layer : Layer), geometry.layers[index]? = some layer ∧
    (geometry.splitLayers = true → options.wants index = true) ∧ segment ∈ layer.segments kind

namespace Selection

def groups (selection : Selection) : List (Kind × List Edge) :=
  selection.buffers.map fun buffer => (buffer.kind, buffer.edges)

theorem edges_eq_groups (selection : Selection) :
    selection.edges = selection.groups.flatMap Prod.snd := by
  rw [groups, List.flatMap_map, edges]

theorem mem_layers {options : PreviewOptions} {layers : List Layer} {layer : Layer} :
    layer ∈ Selection.layers options layers ↔
      ∃ index : Nat, layers[index]? = some layer ∧ options.wants index = true := by
  simp only [Selection.layers, List.mem_map, List.mem_filter]
  constructor
  · rintro ⟨⟨listed, index⟩, ⟨found, wanted⟩, rfl⟩
    exact ⟨index, List.mem_zipIdx_iff_getElem?.mp found, wanted⟩
  · rintro ⟨index, found, wanted⟩
    exact ⟨(layer, index), ⟨List.mem_zipIdx_iff_getElem?.mpr found, wanted⟩, rfl⟩

theorem mem_chosen {options : PreviewOptions} {geometry : Geometry} {layer : Layer} :
    layer ∈ geometry.chosen options ↔ ∃ index : Nat, geometry.layers[index]? = some layer ∧
      (geometry.splitLayers = true → options.wants index = true) := by
  unfold Geometry.chosen
  by_cases split : geometry.splitLayers = true
  · simp only [split, if_true, mem_layers, true_implies]
  · simp only [split, if_false, Bool.false_eq_true, false_implies, and_true]
    exact List.mem_iff_getElem?

theorem filter_kinds (options : PreviewOptions) :
    Kind.all.filter (· ∈ options.kinds) = options.kinds := by
  unfold PreviewOptions.kinds
  cases options.showTravel <;> rfl

theorem groups_ofGeometry (options : PreviewOptions) (geometry : Geometry) :
    (ofGeometry options geometry).groups =
      options.kinds.map fun kind => (kind, ((geometry.chosen options).flatMap
        (·.segments kind)).map (Edge.ofSegment false)) := by
  unfold groups
  by_cases split : geometry.splitLayers = true
  · simp only [ofGeometry, Geometry.flattened?, Geometry.chosen, split, if_true, List.map_map]
    rfl
  · simp only [ofGeometry, Buffer.ofGeometry, Geometry.flattened?, Geometry.chosen, split,
      Bool.false_eq_true, if_false, List.filter_map, List.map_map]
    have drawn : Kind.all.filter ((fun buffer : Buffer => decide (buffer.kind ∈ options.kinds)) ∘
        fun kind => Buffer.ofSegments (Buffer.nameOf (Flattened.ofLayers geometry.layers).layerCount)
          kind false ((Flattened.ofLayers geometry.layers).segments kind)) = options.kinds :=
      filter_kinds options
    rw [drawn]
    apply List.map_congr_left
    intro kind _
    simp only [Function.comp, Buffer.ofSegments, Flattened.segments_ofLayers]

theorem edges_ofGeometry (options : PreviewOptions) (geometry : Geometry) :
    (ofGeometry options geometry).edges = options.kinds.flatMap fun kind =>
      ((geometry.chosen options).flatMap (·.segments kind)).map (Edge.ofSegment false) := by
  rw [edges_eq_groups, groups_ofGeometry, List.flatMap_map]

theorem mem_edges_ofGeometry {options : PreviewOptions} {geometry : Geometry} {edge : Edge} :
    edge ∈ (ofGeometry options geometry).edges ↔
      ∃ segment, Drawn options geometry segment ∧ Edge.ofSegment false segment = edge := by
  simp only [edges_ofGeometry, List.mem_flatMap, List.mem_map, mem_chosen, Drawn]
  constructor
  · rintro ⟨kind, drawn, segment, ⟨layer, ⟨index, found, wanted⟩, listed⟩, rfl⟩
    exact ⟨segment, ⟨kind, drawn, index, layer, found, wanted, listed⟩, rfl⟩
  · rintro ⟨segment, ⟨kind, drawn, index, layer, found, wanted, listed⟩, rfl⟩
    exact ⟨kind, drawn, segment, ⟨layer, ⟨index, found, wanted⟩, listed⟩, rfl⟩

theorem edges_finite (selection : Selection) :
    selection.finite.edges = selection.edges.filter Edge.isFinite := by
  simp only [edges, finite, List.flatMap_map, List.filter_flatMap, Buffer.finite]

end Selection

end Toolpath
