import Toolpath.Preview.Image
import Toolpath.Proofs.Selection

/-!
A geometry is drawn alike whether its layers are apart or flattened. A drawing shows the kinds and
edges of the groups and the number of layers, but not the names of the groups.
-/

namespace Toolpath

namespace Selection

theorem vertices_eq_groups (selection : Selection) :
    selection.buffers.flatMap Buffer.vertices =
      selection.groups.flatMap fun group => group.2.flatMap Edge.vertices := by
  rw [groups, List.flatMap_map]
  rfl

theorem groups_finite (selection : Selection) :
    selection.finite.groups =
      selection.groups.map fun group => (group.1, group.2.filter Edge.isFinite) := by
  rw [groups, groups, finite, List.map_map, List.map_map]
  rfl

theorem count_eq_groups (selection : Selection) (kind : Kind) :
    selection.count kind =
      ((selection.groups.filter (·.1 = kind)).flatMap Prod.snd).length := by
  rw [groups, List.filter_map, List.flatMap_map]
  rfl

/-- Two selections hold the same groups, but for their names, from as many layers. -/
structure Alike (left right : Selection) : Prop where
  groups : left.groups = right.groups
  layerCount : left.layerCount = right.layerCount

variable {left right : Selection}

theorem Alike.finite (alike : left.Alike right) : left.finite.Alike right.finite := by
  refine ⟨?_, alike.layerCount⟩
  rw [groups_finite, groups_finite, alike.groups]

theorem Alike.box? (alike : left.Alike right) :
    Box.ofBuffers? left.buffers = Box.ofBuffers? right.buffers := by
  rw [Box.ofBuffers?, Box.ofBuffers?, vertices_eq_groups, vertices_eq_groups, alike.groups]

theorem Alike.count (alike : left.Alike right) : left.count = right.count := by
  funext kind
  rw [count_eq_groups, count_eq_groups, alike.groups]

end Selection

namespace Preview

variable {left right : Selection}

theorem flatMap_edgeLines (frame : Frame Double) (palette : Palette) (width : Int)
    (selection : Selection) :
    selection.inDrawingOrder.flatMap (edgeLines frame palette width) =
      (selection.groups.filter (·.1 = .travel) ++ selection.groups.filter (·.1 ≠ .travel)).flatMap
        fun group => edgeLines frame palette width ⟨"", group.1, group.2⟩ := by
  rw [Selection.groups, List.filter_map, List.filter_map, ← List.map_append, List.flatMap_map]
  rfl

theorem lineCalls_congr (palette : Palette) (layout : Layout) (alike : left.Alike right) :
    lineCalls palette layout left = lineCalls palette layout right := by
  rw [lineCalls, lineCalls, flatMap_edgeLines, flatMap_edgeLines, alike.groups]

theorem overlay_congr (heights : Span Double) (alike : left.Alike right) :
    overlay left heights = overlay right heights := by
  rw [overlay, overlay, alike.count, alike.layerCount]

theorem draw_congr (options : PreviewOptions) (box : Box) (alike : left.Alike right) :
    draw options left box = draw options right box := by
  have edges : left.edges = right.edges := by
    rw [Selection.edges_eq_groups, Selection.edges_eq_groups, alike.groups]
  unfold draw
  simp only [lineCalls_congr _ _ alike, overlay_congr _ alike, edges]

theorem render_congr {options : PreviewOptions} {geometry other : Geometry}
    (chosen : Option (List Quantity))
    (alike : (Selection.ofGeometry options geometry).Alike
      (Selection.ofGeometry { options with layers := chosen } other)) :
    render options geometry = render { options with layers := chosen } other := by
  have finite := alike.finite
  unfold render
  dsimp only
  rw [finite.box?]
  cases Box.ofBuffers?
      (Selection.ofGeometry { options with layers := chosen } other).finite.buffers with
  | none => rfl
  | some box => exact draw_congr options box finite

end Preview

namespace Selection

theorem layers_unrestricted (options : PreviewOptions) (stacked : List Layer) :
    layers { options with layers := none } stacked = stacked := by
  rw [layers, List.filter_eq_self.mpr, List.zipIdx_map_fst]
  intro entry _
  rfl

theorem alike_forms (options : PreviewOptions) (stacked : List Layer)
    (chosen : Option (List Quantity)) :
    (ofGeometry { options with layers := none } ⟨stacked, true⟩).Alike
      (ofGeometry { options with layers := chosen } ⟨stacked, false⟩) := by
  have all := layers_unrestricted options stacked
  constructor
  · have apart := groups_ofGeometry { options with layers := none } ⟨stacked, true⟩
    have flat := groups_ofGeometry { options with layers := chosen } ⟨stacked, false⟩
    rw [Geometry.chosen, if_pos rfl, all] at apart
    exact apart.trans flat.symm
  · exact congrArg List.length all

end Selection

/-- All layers of a geometry are drawn by the same calls, with the same ending and line of the log,
whether they are apart or flattened; in the flattened form the choice of layers does not count. So a
surface that carries the calls out ends both with the same image or the same error. -/
theorem render_forms (options : PreviewOptions) (stacked : List Layer)
    (chosen : Option (List Quantity)) :
    let apart : PreviewOptions := { options with layers := none }
    let flat : PreviewOptions := { options with layers := chosen }
    Preview.render apart ⟨stacked, true⟩ = Preview.render flat ⟨stacked, false⟩ ∧
      ∀ surface, Preview.imageOn surface apart ⟨stacked, true⟩ =
        Preview.imageOn surface flat ⟨stacked, false⟩ := by
  intro apart flat
  have rendered : Preview.render apart ⟨stacked, true⟩ = Preview.render flat ⟨stacked, false⟩ :=
    Preview.render_congr chosen (Selection.alike_forms options stacked chosen)
  refine ⟨rendered, fun surface => ?_⟩
  rw [Preview.imageOn, Preview.imageOn, rendered]

end Toolpath
