import Toolpath.Log
import Toolpath.Number.Written
import Toolpath.Preview.Frame
import Toolpath.Vertex

/-!
Previews draw the segments of a geometry as seen from above. A preview is the list of calls that a
surface is asked to carry out; one that fails keeps the calls made before.
-/

namespace Toolpath

structure Color where
  red : Int
  green : Int
  blue : Int
  alpha : Int
deriving DecidableEq

structure Palette where
  background : Color
  extruded : Color
  support : Color
  travel : Color
  axis : Color
deriving DecidableEq

namespace Palette

def standard : Palette :=
  { background := ⟨12, 16, 22, 255⟩
    extruded := ⟨0, 255, 0, 255⟩
    support := ⟨255, 255, 255, 255⟩
    travel := ⟨255, 0, 0, 160⟩
    axis := ⟨200, 200, 210, 160⟩ }

def ofKind (palette : Palette) : Kind → Color
  | .extruded => palette.extruded
  | .support => palette.support
  | .travel => palette.travel

/-- Light text on a background with little red, dark text on any other. -/
def text (palette : Palette) : Color :=
  if palette.background.red < 200 then ⟨240, 240, 240, 255⟩ else ⟨20, 20, 20, 255⟩

end Palette

structure TextBox where
  top : Quantity
  bottom : Quantity
deriving DecidableEq

namespace TextBox

def standard : TextBox := ⟨.whole 0, .whole 11⟩

def height (box : TextBox) : Except ConversionError Int := do
  (← box.bottom.minus box.top).truncate

end TextBox

structure PreviewOptions where
  /-- The indices of the layers to draw; all of them if absent. -/
  layers : Option (List Quantity)
  showTravel : Bool
  width : Quantity
  height : Quantity
  palette : Palette
  textBox : TextBox
deriving DecidableEq

namespace PreviewOptions

def standard : PreviewOptions :=
  { layers := none
    showTravel := true
    width := .whole 768
    height := .whole 512
    palette := .standard
    textBox := .standard }

def kinds (options : PreviewOptions) : List Kind :=
  Kind.all.filter fun kind => options.showTravel || kind != .travel

def side (length : Quantity) : Except PreviewError Nat := do
  return (max 1 (← length.truncate.mapError PreviewError.conversion)).toNat

def canvas (options : PreviewOptions) : Except PreviewError Canvas := do
  return ⟨← side options.width, ← side options.height⟩

def wants (options : PreviewOptions) (index : Nat) : Bool :=
  match options.layers with
  | none => true
  | some indices => indices.any (·.equalsInt index)

end PreviewOptions

inductive DrawCall where
  | canvas (size : Canvas) (background : Color)
  | line (start stop : Double × Double) (color : Color) (width : Int)
  | text (left top : Int) (content : String) (color : Color)
deriving DecidableEq

structure PreviewSummary where
  segments : Nat
  canvas : Canvas
deriving DecidableEq

namespace PreviewSummary

def message (summary : PreviewSummary) : String :=
  "Rendered " ++ toString summary.segments ++ " segments into a " ++
    toString summary.canvas.width ++ "x" ++ toString summary.canvas.height ++ " preview"

def logLine (summary : PreviewSummary) : Log.Line := ⟨.debug, .preview, summary.message⟩

end PreviewSummary

structure Rendering where
  calls : List DrawCall
  ending : Except PreviewError PreviewSummary

namespace Rendering

def attempt {α : Type} (calls : List DrawCall) (result : Except PreviewError α)
    (next : α → Rendering) : Rendering :=
  match result with
  | .error cause => ⟨calls, .error cause⟩
  | .ok value => next value

@[simp] theorem attempt_ok {α : Type} (calls : List DrawCall) (value : α) (next : α → Rendering) :
    attempt calls (.ok value) next = next value := rfl

@[simp] theorem attempt_error {α : Type} (calls : List DrawCall) (cause : PreviewError)
    (next : α → Rendering) : attempt calls (.error cause) next = ⟨calls, .error cause⟩ := rfl

end Rendering

structure Selection where
  buffers : List Buffer
  layerCount : Nat
deriving DecidableEq

namespace Selection

def layers (options : PreviewOptions) (layers : List Layer) : List Layer :=
  (layers.zipIdx.filter fun (_, index) => options.wants index).map (·.1)

/-- One group for each kind that is drawn. The choice of layers counts only while they are apart. -/
def ofGeometry (options : PreviewOptions) (geometry : Geometry) : Selection :=
  match geometry.flattened? with
  | some flattened =>
    ⟨(Buffer.ofGeometry geometry false).filter (·.kind ∈ options.kinds), flattened.layerCount⟩
  | none =>
    let chosen := layers options geometry.layers
    ⟨options.kinds.map fun kind =>
        Buffer.ofSegments "preview" kind false (chosen.flatMap (·.segments kind)),
      chosen.length⟩

def finite (selection : Selection) : Selection :=
  { selection with buffers := selection.buffers.map Buffer.finite }

def edges (selection : Selection) : List Edge := selection.buffers.flatMap Buffer.edges

def count (selection : Selection) (kind : Kind) : Nat :=
  ((selection.buffers.filter (·.kind = kind)).flatMap Buffer.edges).length

/-- The groups in the order of drawing: travel first, so that what was extruded stays visible. -/
def inDrawingOrder (selection : Selection) : List Buffer :=
  selection.buffers.filter (·.kind = .travel) ++ selection.buffers.filter (·.kind ≠ .travel)

end Selection

namespace Preview

def widen (coordinate : Single) : Double := coordinate.toFormat .double

def span (box : Box) (coordinate : Vertex → Single) : Span Double :=
  ⟨widen (coordinate box.low), widen (coordinate box.high)⟩

def strokeWidth (scale : Double) (tenths : Nat) : Except PreviewError Int := do
  let width ← (truncateDouble (scale * Scalar.digit tenths (-1))).mapError PreviewError.conversion
  return max 1 width

def axisLines (frame : Frame Double) (across up : Span Double) (color : Color) (width : Int) :
    List DrawCall :=
  let zero := Binary.zero false
  (if across.holdsZero then
    [.line (frame.project zero up.low) (frame.project zero up.high) color width] else []) ++
  (if up.holdsZero then
    [.line (frame.project across.low zero) (frame.project across.high zero) color width] else [])

def edgeLines (frame : Frame Double) (palette : Palette) (width : Int) (buffer : Buffer) :
    List DrawCall :=
  let pixel (vertex : Vertex) := frame.project (widen vertex.x) (widen vertex.y)
  buffer.edges.map fun edge =>
    .line (pixel edge.start) (pixel edge.stop) (palette.ofKind buffer.kind) width

def overlay (selection : Selection) (heights : Span Double) : List String :=
  ["Layers: " ++ toString selection.layerCount,
    "Extruded: " ++ toString (selection.count .extruded) ++
      "  |  Support: " ++ toString (selection.count .support) ++
      "  |  Travel: " ++ toString (selection.count .travel),
    "Z range: " ++ heights.low.placesText ++ " to " ++ heights.high.placesText]

def textCalls (canvas : Canvas) (color : Color) (height : Int) (lines : List String) :
    List DrawCall :=
  let margin : Nat := canvas.padding / 2
  lines.zipIdx.map fun (content, index) =>
    .text margin (margin + index * (height + 2)) content color

structure Layout where
  frame : Frame Double
  across : Span Double
  up : Span Double
  axisWidth : Int
  lineWidth : Int
deriving DecidableEq

def layout (canvas : Canvas) (box : Box) : Except PreviewError Layout := do
  let across := (span box Vertex.x).widened
  let up := (span box Vertex.y).widened
  let scale ← scaleFor canvas across up
  let axisWidth ← strokeWidth scale 5
  let frame ← Frame.place canvas across up scale
  let lineWidth ← strokeWidth scale 4
  return ⟨frame, across, up, axisWidth, min 4 lineWidth⟩

def lineCalls (palette : Palette) (layout : Layout) (selection : Selection) : List DrawCall :=
  axisLines layout.frame layout.across layout.up palette.axis layout.axisWidth ++
    selection.inDrawingOrder.flatMap (edgeLines layout.frame palette layout.lineWidth)

def draw (options : PreviewOptions) (selection : Selection) (box : Box) : Rendering :=
  .attempt [] options.canvas fun canvas =>
    let opening := [DrawCall.canvas canvas options.palette.background]
    .attempt opening (layout canvas box) fun layout =>
      let drawn := opening ++ lineCalls options.palette layout selection
      let lines := overlay selection (span box Vertex.z)
      let written := textCalls canvas options.palette.text
      .attempt (drawn ++ written 0 (lines.take 1))
        (options.textBox.height.mapError .conversion) fun height =>
          ⟨drawn ++ written height lines, .ok ⟨selection.edges.length, canvas⟩⟩

/-- Renders a geometry; without an edge to draw there is no preview. -/
def render (options : PreviewOptions) (geometry : Geometry) : Rendering :=
  let selection := (Selection.ofGeometry options geometry).finite
  match Box.ofBuffers? selection.buffers with
  | none => ⟨[], .error .nothingDrawable⟩
  | some box => draw options selection box

end Preview

end Toolpath
