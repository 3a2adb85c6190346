import Mathlib.Data.List.Basic
import Mathlib.Data.List.Induction
import Toolpath.Proofs.Drawability
import Toolpath.Proofs.Forms

/-! Choosing layers by index is drawing a geometry that holds no others. -/

namespace Toolpath

/-- The layers whose index is listed, in their order. -/
def layersAt (indices : List Int) (stacked : List Layer) : List Layer :=
  (List.range stacked.length).filterMap fun index : Nat =>
    if (index : Int) ∈ indices then stacked[index]? else none

def PreviewOptions.selecting (options : PreviewOptions) (indices : List Int) : PreviewOptions :=
  { options with layers := some (indices.map .whole) }

theorem PreviewOptions.wants_selecting (options : PreviewOptions) (indices : List Int)
    (index : Nat) : (options.selecting indices).wants index = decide ((index : Int) ∈ indices) := by
  rw [Bool.eq_iff_iff]
  simp [wants, selecting, Quantity.equalsInt]

theorem map_fst_filter_zipIdx {α : Type} (keeps : Nat → Bool) (elements : List α) :
    (elements.zipIdx.filter fun (_, index) => keeps index).map (·.1) =
      (List.range elements.length).filterMap fun index =>
        if keeps index then elements[index]? else none := by
  induction elements using List.reverseRecOn with
  | nil => rfl
  | append_singleton before last ih =>
      have earlier : (List.range before.length).filterMap (fun index =>
            if keeps index then (before ++ [last])[index]? else none) =
          (List.range before.length).filterMap fun index =>
            if keeps index then before[index]? else none := by
        apply List.filterMap_congr
        intro index inside
        rw [List.getElem?_append_left (List.mem_range.mp inside)]
      rw [List.zipIdx_append, List.filter_append, List.map_append, ih, List.length_append,
        List.length_singleton, List.range_succ, List.filterMap_append, earlier]
      by_cases kept : keeps before.length = true <;> simp [kept]

theorem Selection.layers_selecting (options : PreviewOptions) (indices : List Int)
    (stacked : List Layer) :
    Selection.layers (options.selecting indices) stacked = layersAt indices stacked := by
  simp only [Selection.layers, PreviewOptions.wants_selecting, layersAt]
  rw [map_fst_filter_zipIdx fun index => decide ((index : Int) ∈ indices)]
  simp only [decide_eq_true_eq]

theorem layersAt_congr {indices others : List Int} {stacked : List Layer}
    (same : ∀ index < stacked.length, (index : Int) ∈ indices ↔ (index : Int) ∈ others) :
    layersAt indices stacked = layersAt others stacked := by
  apply List.filterMap_congr
  intro index inside
  simp only [same index (List.mem_range.mp inside)]

theorem layersAt_eq_nil {indices : List Int} {stacked : List Layer}
    (outside : ∀ index ∈ indices, index < 0) : layersAt indices stacked = [] := by
  apply List.filterMap_eq_nil_iff.mpr
  intro index _
  rw [if_neg]
  intro listed
  have negative := outside _ listed
  omega

namespace Selection

theorem alike_selecting (options : PreviewOptions) (indices : List Int) (stacked : List Layer) :
    (ofGeometry (options.selecting indices) ⟨stacked, true⟩).Alike
      (ofGeometry { options with layers := none } ⟨layersAt indices stacked, true⟩) := by
  have chosen := layers_selecting options indices stacked
  have all := layers_unrestricted options (layersAt indices stacked)
  constructor
  · rw [groups_ofGeometry, groups_ofGeometry, Geometry.chosen, Geometry.chosen, if_pos rfl,
      if_pos rfl, chosen, all]
    rfl
  · change (layers _ _).length = (layers _ _).length
    rw [chosen, all]

end Selection

namespace Preview

theorem render_selecting (options : PreviewOptions) (indices : List Int) (stacked : List Layer) :
    render (options.selecting indices) ⟨stacked, true⟩ =
      render { options with layers := none } ⟨layersAt indices stacked, true⟩ :=
  render_congr none (Selection.alike_selecting options indices stacked)

theorem render_of_no_layers (options : PreviewOptions) :
    render { options with layers := none } ⟨[], true⟩ = ⟨[], .error .nothingDrawable⟩ := by
  apply render_of_empty
  rw [Selection.edges_finite, Selection.edges_ofGeometry, Geometry.chosen, if_pos rfl,
    Selection.layers_unrestricted]
  simp

/-- Choosing layers by index makes the calls, the line of the log and the ending of a preview of the
stack that holds only those layers. So two lists of indices are drawn alike when they hold the same
ones of the stack, negative indices add nothing, and no preview comes of them alone. -/
theorem render_restricted (options : PreviewOptions) (stacked : List Layer)
    (indices : List Int) :
    let all : PreviewOptions := { options with layers := none }
    (render (options.selecting indices) ⟨stacked, true⟩ =
        render all ⟨layersAt indices stacked, true⟩ ∧
      ∀ surface, imageOn surface (options.selecting indices) ⟨stacked, true⟩ =
        imageOn surface all ⟨layersAt indices stacked, true⟩) ∧
    (∀ others : List Int,
      (∀ index < stacked.length, (index : Int) ∈ indices ↔ (index : Int) ∈ others) →
      render (options.selecting indices) ⟨stacked, true⟩ =
        render (options.selecting others) ⟨stacked, true⟩) ∧
    render (options.selecting indices) ⟨stacked, true⟩ =
      render (options.selecting (indices.filter (0 ≤ ·))) ⟨stacked, true⟩ ∧
    ((∀ index ∈ indices, index < 0) →
      render (options.selecting indices) ⟨stacked, true⟩ = ⟨[], .error .nothingDrawable⟩) := by
  intro all
  have rendered := render_selecting options indices stacked
  have alike (others : List Int)
      (same : ∀ index < stacked.length, (index : Int) ∈ indices ↔ (index : Int) ∈ others) :
      render (options.selecting indices) ⟨stacked, true⟩ =
        render (options.selecting others) ⟨stacked, true⟩ := by
    rw [rendered, render_selecting, layersAt_congr same]
  refine ⟨⟨rendered, fun surface => ?_⟩, alike, alike _ ?_, ?_⟩
  · rw [imageOn, imageOn, rendered]
  · intro index _
    simp
  · intro negative
    rw [rendered, layersAt_eq_nil negative, render_of_no_layers]

theorem render_restricted_of_repetition :
    let stacked := (Geometry.ofText .standard "G1 X7 E1\nG1 Y9 Z2 E2\n" none).layers
    stacked.length = 2 ∧
      render (PreviewOptions.standard.selecting [7, 1, -1, 1]) ⟨stacked, true⟩ =
        render (PreviewOptions.standard.selecting [1]) ⟨stacked, true⟩ ∧
      render (PreviewOptions.standard.selecting [-2, -1]) ⟨stacked, true⟩ =
        ⟨[], .error .nothingDrawable⟩ := by
  intro stacked
  have length : stacked.length = 2 := by decide +kernel
  obtain ⟨-, alike, -, -⟩ := render_restricted .standard stacked [7, 1, -1, 1]
  obtain ⟨-, -, -, nothing⟩ := render_restricted .standard stacked [-2, -1]
  refine ⟨length, alike [1] ?_, nothing (by decide)⟩
  intro index inside
  rw [length] at inside
  obtain rfl | rfl : index = 0 ∨ index = 1 := by omega
  all_goals decide

end Preview

end Toolpath
