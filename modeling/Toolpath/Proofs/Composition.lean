import Toolpath.Proofs.Drawability
import Toolpath.Proofs.Forms
import Toolpath.Proofs.Margins

/-! The calls of a finished preview, written out from the segments that are drawn. -/

namespace Toolpath

/-- The layers that a preview draws. The choice by index counts only while the layers are apart. -/
def Geometry.selected (options : PreviewOptions) (geometry : Geometry) : List Layer :=
  (geometry.layers.zipIdx.filter fun (_, index) =>
    !geometry.splitLayers || options.layers.all (·.any (·.equalsInt index))).map (·.1)

/-- The segments of a kind that a preview draws, layer by layer in the order of recording: those that
are finite in single precision, and none of travel that is not shown. -/
def drawnSegments (options : PreviewOptions) (geometry : Geometry) (kind : Kind) : List Segment :=
  if kind = .travel ∧ options.showTravel = false then []
  else ((geometry.selected options).flatMap (·.segments kind)).filter fun segment =>
    segment.coordinates.all fun coordinate => coordinate.FitsSingle

def Point.single (point : Point) : Vertex :=
  ⟨point.x.toFormat .single, point.y.toFormat .single, point.z.toFormat .single⟩

def drawnVertices (options : PreviewOptions) (geometry : Geometry) : List Vertex :=
  (Kind.all.flatMap (drawnSegments options geometry)).flatMap fun segment =>
    [segment.start.single, segment.stop.single]

/-- What the calls of a preview depend on besides the segments drawn and the colors. -/
structure Composition where
  canvas : Canvas
  box : Box
  axes : List DrawCall
  frame : Frame Double
  lineWidth : Int
  textHeight : Int

namespace Composition

variable (composition : Composition) (options : PreviewOptions) (geometry : Geometry)

def pixel (point : Point) : Double × Double :=
  let frame := composition.frame
  let x : Double := point.single.x.toFormat .double
  let y : Double := point.single.y.toFormat .double
  (frame.padding + (x - frame.left) * frame.scale,
    frame.height - (frame.padding + (y - frame.bottom) * frame.scale))

def lines (kind : Kind) (color : Color) : List DrawCall :=
  (drawnSegments options geometry kind).map fun segment =>
    .line (composition.pixel segment.start) (composition.pixel segment.stop) color
      composition.lineWidth

def layersText : String := "Layers: " ++ toString (geometry.selected options).length

def countsText : String :=
  let count (kind : Kind) := toString (drawnSegments options geometry kind).length
  "Extruded: " ++ count .extruded ++ "  |  Support: " ++ count .support ++
    "  |  Travel: " ++ count .travel

def heightsText : String :=
  let low : Double := composition.box.low.z.toFormat .double
  let high : Double := composition.box.high.z.toFormat .double
  "Z range: " ++ low.placesText ++ " to " ++ high.placesText

def texts : List DrawCall :=
  let margin : Int := (max 24 (min composition.canvas.width composition.canvas.height / 12) / 2 : Nat)
  let step := composition.textHeight + 2
  let color : Color :=
    if options.palette.background.red < 200 then ⟨240, 240, 240, 255⟩ else ⟨20, 20, 20, 255⟩
  [.text margin margin (layersText options geometry) color,
    .text margin (margin + step) (countsText options geometry) color,
    .text margin (margin + 2 * step) composition.heightsText color]

def calls : List DrawCall :=
  [.canvas composition.canvas options.palette.background] ++ composition.axes ++
    (composition.lines options geometry .travel options.palette.travel ++
      composition.lines options geometry .extruded options.palette.extruded ++
      composition.lines options geometry .support options.palette.support) ++
    composition.texts options geometry

/-- Holds of the compositions on the canvas asked for, with the least box around what is drawn, one
frame fitted to it, and two lines for the axes at the most. -/
structure Fits : Prop where
  canvas : options.canvas = .ok composition.canvas
  least : composition.box.Least (drawnVertices options geometry)
  frame : Frame.fit composition.canvas (Preview.span composition.box Vertex.x)
    (Preview.span composition.box Vertex.y) = .ok composition.frame
  axes_length : composition.axes.length ≤ 2
  axes_line : ∀ call ∈ composition.axes, ∃ startX startY stopX stopY width,
    call = .line (composition.frame.project startX startY)
      (composition.frame.project stopX stopY) options.palette.axis width
  textHeight : options.textBox.height = .ok composition.textHeight

end Composition

theorem Geometry.selected_eq_chosen (options : PreviewOptions) (geometry : Geometry) :
    geometry.selected options = geometry.chosen options := by
  unfold selected chosen Selection.layers PreviewOptions.wants
  cases geometry.splitLayers with
  | true => cases options.layers <;> rfl
  | false => simp [List.zipIdx_map_fst]

theorem drawnSegments_eq (options : PreviewOptions) (geometry : Geometry) (kind : Kind) :
    (drawnSegments options geometry kind).map (Edge.ofSegment false) =
      if kind = .travel ∧ options.showTravel = false then []
      else (((geometry.chosen options).flatMap (·.segments kind)).map
        (Edge.ofSegment false)).filter Edge.isFinite := by
  have finite : (fun segment : Segment => segment.coordinates.all fun coordinate =>
      decide coordinate.FitsSingle) = Edge.isFinite ∘ Edge.ofSegment false := by
    funext segment
    rw [Bool.eq_iff_iff, List.all_eq_true, Function.comp_apply, Edge.isFinite_ofSegment_iff]
    simp only [decide_eq_true_eq]
  unfold drawnSegments
  rw [Geometry.selected_eq_chosen, finite]
  split
  · rfl
  · rw [List.filter_map]

theorem PreviewOptions.kinds_eq (options : PreviewOptions) :
    options.kinds = if options.showTravel then [.extruded, .support, .travel]
      else [.extruded, .support] := by
  unfold kinds
  cases options.showTravel <;> rfl

namespace Selection

variable (options : PreviewOptions) (geometry : Geometry)

theorem groups_finite_ofGeometry :
    (ofGeometry options geometry).finite.groups =
      options.kinds.map fun kind =>
        (kind, (drawnSegments options geometry kind).map (Edge.ofSegment false)) := by
  rw [groups_finite, groups_ofGeometry, List.map_map]
  apply List.map_congr_left
  intro kind member
  have shown : ¬ (kind = .travel ∧ options.showTravel = false) := by
    rintro ⟨rfl, hidden⟩
    simp [PreviewOptions.kinds_eq, hidden] at member
  simp only [Function.comp, drawnSegments_eq, shown, if_false]

theorem edges_finite_ofGeometry :
    (ofGeometry options geometry).finite.edges =
      (Kind.all.flatMap (drawnSegments options geometry)).map (Edge.ofSegment false) := by
  rw [edges_eq_groups, groups_finite_ofGeometry, PreviewOptions.kinds_eq]
  cases shown : options.showTravel <;> simp [Kind.all, drawnSegments, shown]

theorem count_finite_ofGeometry (kind : Kind) :
    (ofGeometry options geometry).finite.count kind =
      (drawnSegments options geometry kind).length := by
  rw [count_eq_groups, groups_finite_ofGeometry, PreviewOptions.kinds_eq]
  cases shown : options.showTravel <;> cases kind <;> simp [drawnSegments, shown]

end Selection

namespace Preview

theorem flatMap_edgeLines_ofGeometry (options : PreviewOptions) (geometry : Geometry)
    (composition : Composition) :
    (Selection.ofGeometry options geometry).finite.inDrawingOrder.flatMap
        (edgeLines composition.frame options.palette composition.lineWidth) =
      composition.lines options geometry .travel options.palette.travel ++
        composition.lines options geometry .extruded options.palette.extruded ++
        composition.lines options geometry .support options.palette.support := by
  have lines (kind : Kind) :
      edgeLines composition.frame options.palette composition.lineWidth
          ⟨"", kind, (drawnSegments options geometry kind).map (Edge.ofSegment false)⟩ =
        composition.lines options geometry kind (options.palette.ofKind kind) := by
    rw [edgeLines, Composition.lines, List.map_map]
    rfl
  have hidden (shown : options.showTravel = false) :
      composition.lines options geometry .travel options.palette.travel = [] := by
    simp [Composition.lines, drawnSegments, shown]
  rw [flatMap_edgeLines, Selection.groups_finite_ofGeometry, PreviewOptions.kinds_eq]
  cases shown : options.showTravel with
  | true => simp [lines, Palette.ofKind]
  | false => simp [lines, Palette.ofKind, hidden shown]

theorem length_axisLines_le (frame : Frame Double) (across up : Span Double) (color : Color)
    (width : Int) : (axisLines frame across up color width).length ≤ 2 := by
  unfold axisLines
  split <;> split <;> simp

theorem line_of_mem_axisLines {frame : Frame Double} {across up : Span Double} {color : Color}
    {width : Int} {call : DrawCall} (listed : call ∈ axisLines frame across up color width) :
    ∃ startX startY stopX stopY, call =
      .line (frame.project startX startY) (frame.project stopX stopY) color width := by
  unfold axisLines at listed
  rcases List.mem_append.mp listed with upright | level
  · split at upright
    · exact ⟨_, _, _, _, List.mem_singleton.mp upright⟩
    · cases upright
  · split at level
    · exact ⟨_, _, _, _, List.mem_singleton.mp level⟩
    · cases level

theorem textCalls_ofGeometry (options : PreviewOptions) (geometry : Geometry)
    (composition : Composition) :
    textCalls composition.canvas options.palette.text composition.textHeight
        (overlay (Selection.ofGeometry options geometry).finite (span composition.box Vertex.z)) =
      composition.texts options geometry := by
  have layers : (Selection.ofGeometry options geometry).finite.layerCount =
      (geometry.selected options).length := by
    rw [Geometry.selected_eq_chosen]
    by_cases split : geometry.splitLayers = true <;>
      simp [Selection.ofGeometry, Selection.finite, Geometry.flattened?, Geometry.chosen, split,
        Flattened.ofLayers]
  have written : overlay (Selection.ofGeometry options geometry).finite
        (span composition.box Vertex.z) =
      [Composition.layersText options geometry, Composition.countsText options geometry,
        composition.heightsText] := by
    simp only [overlay, Selection.count_finite_ofGeometry, layers]
    rfl
  rw [written]
  simp [textCalls, Composition.texts, Canvas.padding, Palette.text]

theorem exists_of_completed {options : PreviewOptions} {selection : Selection} {box : Box}
    {summary : PreviewSummary} (completed : (draw options selection box).ending = .ok summary) :
    ∃ canvas plan height, options.canvas = .ok canvas ∧ layout canvas box = .ok plan ∧
      options.textBox.height = .ok height ∧
      (draw options selection box).calls =
        [.canvas canvas options.palette.background] ++ lineCalls options.palette plan selection ++
          textCalls canvas options.palette.text height (overlay selection (span box Vertex.z)) := by
  obtain ⟨cause, -, drawn⟩ | ⟨canvas, prepared, ⟨cause, -, drawn⟩ | ⟨plan, planned,
    ⟨cause, failed⟩ | ⟨height, measured, drawn⟩⟩⟩ := draw_cases options selection box
  · rw [drawn] at completed
    cases completed
  · rw [drawn] at completed
    cases completed
  · rw [failed] at completed
    cases completed
  · exact ⟨canvas, plan, height, prepared, planned, measured, by rw [drawn]⟩

end Preview

end Toolpath
