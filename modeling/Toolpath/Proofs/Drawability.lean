import Toolpath.Proofs.Overflow
import Toolpath.Proofs.Rendering

/-! When there is no preview for want of anything to draw. Nothing that goes wrong while drawing is
mistaken for that (`Preview.ending_draw_ne`). -/

namespace Toolpath

theorem mapError_conversion_ne {α : Type} (result : Except ConversionError α) :
    result.mapError PreviewError.conversion ≠ .error .nothingDrawable := by
  cases result <;> exact nofun

theorem ok_ne_error {cause α : Type} (value : α) (reason : cause) :
    (.ok value : Except cause α) ≠ .error reason := nofun

namespace PreviewOptions

theorem side_ne (length : Quantity) : side length ≠ .error .nothingDrawable :=
  bind_ne_error (mapError_conversion_ne _) fun _ => ok_ne_error _ _

theorem canvas_ne (options : PreviewOptions) : options.canvas ≠ .error .nothingDrawable :=
  bind_ne_error (side_ne _) fun _ => bind_ne_error (side_ne _) fun _ => ok_ne_error _ _

end PreviewOptions

section Scalar

variable {α : Type} [Scalar α]

theorem divide_ne (left right : α) : Scalar.divide left right ≠ .error .nothingDrawable := by
  unfold Scalar.divide
  split <;> exact nofun

theorem fittedScale_ne (canvas : Canvas) (across up : Span α) :
    fittedScale canvas across up ≠ .error .nothingDrawable := by
  refine bind_ne_error (mapError_conversion_ne _) fun width => bind_ne_error (divide_ne _ _) ?_
  intro wide
  split
  · exact bind_ne_error (mapError_conversion_ne _) fun height => divide_ne _ _
  · exact ok_ne_error _ _

theorem scaleFor_ne (canvas : Canvas) (across up : Span α) :
    scaleFor canvas across up ≠ .error .nothingDrawable :=
  bind_ne_error (fittedScale_ne _ _ _) fun _ => ok_ne_error _ _

theorem Frame.place_ne (canvas : Canvas) (across up : Span α) (scale : α) :
    Frame.place canvas across up scale ≠ .error .nothingDrawable :=
  bind_ne_error (mapError_conversion_ne _) fun _ =>
    bind_ne_error (mapError_conversion_ne _) fun _ => ok_ne_error _ _

end Scalar

namespace Preview

theorem strokeWidth_ne (scale : Double) (tenths : Nat) :
    strokeWidth scale tenths ≠ .error .nothingDrawable :=
  bind_ne_error (mapError_conversion_ne _) fun _ => ok_ne_error _ _

theorem layout_ne (canvas : Canvas) (box : Box) : layout canvas box ≠ .error .nothingDrawable := by
  unfold layout
  refine bind_ne_error (scaleFor_ne _ _ _) fun scale => ?_
  refine bind_ne_error (strokeWidth_ne _ _) fun axisWidth => ?_
  refine bind_ne_error (Frame.place_ne _ _ _ _) fun frame => ?_
  exact bind_ne_error (strokeWidth_ne _ _) fun lineWidth => ok_ne_error _ _

theorem draw_cases (options : PreviewOptions) (selection : Selection) (box : Box) :
    (∃ cause, options.canvas = .error cause ∧
      draw options selection box = ⟨[], .error cause⟩) ∨
    ∃ canvas, options.canvas = .ok canvas ∧
      ((∃ cause, layout canvas box = .error cause ∧
        draw options selection box =
          ⟨[.canvas canvas options.palette.background], .error cause⟩) ∨
      ∃ plan, layout canvas box = .ok plan ∧
        ((∃ cause, (draw options selection box).ending = .error (.conversion cause)) ∨
        ∃ height, options.textBox.height = .ok height ∧ draw options selection box =
          ⟨[.canvas canvas options.palette.background] ++
              lineCalls options.palette plan selection ++
              textCalls canvas options.palette.text height
                (overlay selection (span box Vertex.z)),
            .ok ⟨selection.edges.length, canvas⟩⟩)) := by
  cases prepared : options.canvas with
  | error cause =>
      refine .inl ⟨cause, rfl, ?_⟩
      rw [draw, prepared, Rendering.attempt_error]
  | ok canvas =>
      refine .inr ⟨canvas, rfl, ?_⟩
      cases planned : layout canvas box with
      | error cause =>
          refine .inl ⟨cause, rfl, ?_⟩
          rw [draw, prepared, Rendering.attempt_ok, planned, Rendering.attempt_error]
      | ok plan =>
          refine .inr ⟨plan, rfl, ?_⟩
          cases measured : options.textBox.height with
          | error cause =>
              refine .inl ⟨cause, ?_⟩
              rw [draw, prepared, Rendering.attempt_ok, planned, Rendering.attempt_ok, measured]
              rfl
          | ok height =>
              refine .inr ⟨height, rfl, ?_⟩
              rw [draw, prepared, Rendering.attempt_ok, planned, Rendering.attempt_ok, measured]
              rfl

/-- What goes wrong while drawing is never that there is nothing to draw. -/
theorem ending_draw_ne (options : PreviewOptions) (selection : Selection) (box : Box) :
    (draw options selection box).ending ≠ .error .nothingDrawable := by
  obtain ⟨cause, refused, drawn⟩ | ⟨canvas, -, ⟨cause, refused, drawn⟩ | ⟨plan, -,
    ⟨cause, drawn⟩ | ⟨height, -, drawn⟩⟩⟩ := draw_cases options selection box
  all_goals
    rw [drawn]
    rintro ⟨⟩
  · exact options.canvas_ne refused
  · exact layout_ne canvas box refused

theorem render_of_empty {options : PreviewOptions} {geometry : Geometry}
    (empty : (Selection.ofGeometry options geometry).finite.edges = []) :
    render options geometry = ⟨[], .error .nothingDrawable⟩ := by
  have none : (Selection.ofGeometry options geometry).finite.buffers.flatMap Buffer.vertices = [] := by
    rw [List.eq_nil_iff_forall_not_mem]
    intro vertex listed
    obtain ⟨edge, inside, -⟩ := Selection.mem_vertices.mp listed
    rw [empty] at inside
    exact List.not_mem_nil inside
  have unboxed : Box.ofBuffers? (Selection.ofGeometry options geometry).finite.buffers = .none := by
    rw [Box.ofBuffers?, none]
    rfl
  unfold render
  dsimp only
  rw [unboxed]

theorem edges_finite_eq_nil_iff {options : PreviewOptions} {geometry : Geometry} :
    (Selection.ofGeometry options geometry).finite.edges = [] ↔
      ¬ ∃ segment, Drawn options geometry segment ∧
        (Edge.ofSegment false segment).isFinite = true := by
  rw [List.eq_nil_iff_forall_not_mem]
  constructor
  · rintro empty ⟨segment, drawn, finite⟩
    exact empty _ (Selection.mem_edges_finite.mpr ⟨segment, drawn, rfl, finite⟩)
  · rintro none edge listed
    obtain ⟨segment, drawn, rfl, finite⟩ := Selection.mem_edges_finite.mp listed
    exact none ⟨segment, drawn, finite⟩

/-- There is nothing to draw exactly when no chosen segment of a drawn kind is finite at both ends
once rounded to single precision. One coordinate that is undefined, infinite or beyond single
precision rules a segment out, whatever its other end. Without anything to draw no call is made. -/
theorem render_nothingDrawable_iff (options : PreviewOptions) (geometry : Geometry) :
    ((render options geometry).ending = .error .nothingDrawable ↔
      ¬ ∃ segment, Drawn options geometry segment ∧
        (Edge.ofSegment false segment).isFinite = true) ∧
    (∀ segment, (Edge.ofSegment false segment).isFinite = true ↔
      ∀ coordinate ∈ segment.coordinates, coordinate.FitsSingle) ∧
    ((render options geometry).ending = .error .nothingDrawable →
      (render options geometry).calls = []) := by
  rw [← edges_finite_eq_nil_iff]
  by_cases empty : (Selection.ofGeometry options geometry).finite.edges = []
  · have rendered := render_of_empty empty
    refine ⟨⟨fun _ => empty, fun _ => ?_⟩, Edge.isFinite_ofSegment_iff, fun _ => ?_⟩ <;> rw [rendered]
  · obtain ⟨edge, listed⟩ := List.exists_mem_of_ne_nil _ empty
    obtain ⟨box, -, rendered, -⟩ := render_eq_draw listed
    have otherwise : (render options geometry).ending ≠ .error .nothingDrawable := by
      rw [rendered]
      exact ending_draw_ne _ _ _
    exact ⟨⟨fun ended => absurd ended otherwise, fun none => absurd none empty⟩,
      Edge.isFinite_ofSegment_iff, fun ended => absurd ended otherwise⟩

theorem render_nothingDrawable_of_overflow :
    let geometry := Geometry.ofText .standard "G1 X5 Z1e39 E1\nG1 X6 Z1 E2\n" none
    (render .standard geometry).ending = .error .nothingDrawable ∧
      (render .standard geometry).calls = [] := by
  intro geometry
  obtain ⟨drawable, -, silent⟩ := render_nothingDrawable_iff .standard geometry
  have ended : (render .standard geometry).ending = .error .nothingDrawable := by
    rw [drawable, ← edges_finite_eq_nil_iff]
    decide +kernel
  exact ⟨ended, silent ended⟩

end Preview

end Toolpath
