import Toolpath.Number.Decimal
import Toolpath.Number.Quantity

/-! How a drawing is scaled and placed on a canvas, in any arithmetic that is a `Scalar`: doubles
when it is drawn, rationals to say what the layout is meant to do. -/

namespace Toolpath

inductive PreviewError where
  | nothingDrawable
  | divisionByZero
  | conversion (cause : ConversionError)
deriving DecidableEq

namespace PreviewError

def message : PreviewError → String
  | nothingDrawable => "No drawable segments were found in this toolpath."
  | divisionByZero => "float division by zero"
  | conversion cause => cause.message

end PreviewError

/-- The arithmetic a frame is laid out in. -/
class Scalar (α : Type) extends Add α, Sub α, Mul α, Div α where
  abs : α → α
  le : α → α → Bool
  ofDecimal : Decimal → α
  ofInt : Int → Except ConversionError α
  exceeds : α → Int → Bool

instance : Scalar Double where
  abs := Binary.abs
  le := Binary.le
  ofDecimal := Binary.ofDecimal
  ofInt := doubleOfInt
  exceeds := Binary.exceeds

namespace Scalar

variable {α : Type} [Scalar α]

def digit (value : Nat) (exponent : Int) : α := ofDecimal ⟨false, value, exponent⟩

def lt (left right : α) : Bool := le left right && !le right left

def isZero (value : α) : Bool := le value (digit 0 0) && le (digit 0 0) value

def isClose (left right : α) : Bool :=
  let difference := abs (right - left)
  let tolerance : α := digit 1 (-9)
  le difference (abs (tolerance * right)) || le difference (abs (tolerance * left))

def divide (left right : α) : Except PreviewError α :=
  if isZero right then .error .divisionByZero else .ok (left / right)

def lift (value : Int) : Except PreviewError α := (ofInt value).mapError .conversion

end Scalar

structure Canvas where
  width : Nat
  height : Nat
deriving DecidableEq

namespace Canvas

/-- The margin on all sides: a twelfth of the shorter side, and no less than 24 pixels. -/
def padding (canvas : Canvas) : Nat := max 24 (min canvas.width canvas.height / 12)

def available (canvas : Canvas) (side : Nat) : Nat := max 1 (side - canvas.padding * 2)

end Canvas

structure Span (α : Type) where
  low : α
  high : α
deriving DecidableEq

namespace Span

variable {α : Type} [Scalar α]

def extent (span : Span α) : α := span.high - span.low

def widened (span : Span α) : Span α :=
  if Scalar.isClose span.high span.low then
    ⟨span.low - Scalar.digit 1 0, span.high + Scalar.digit 1 0⟩
  else span

def holdsZero (span : Span α) : Bool :=
  Scalar.le span.low (Scalar.digit 0 0) && Scalar.le (Scalar.digit 0 0) span.high

end Span

def leastScale {α : Type} [Scalar α] : α := Scalar.digit 1 (-6)

/-- The scale at which both ranges fit into what the margins leave: the width decides unless the
height would then be exceeded. -/
def fittedScale {α : Type} [Scalar α] (canvas : Canvas) (across up : Span α) :
    Except PreviewError α := do
  let wide ← Scalar.divide (← Scalar.lift (canvas.available canvas.width)) across.extent
  if Scalar.exceeds (up.extent * wide) (canvas.available canvas.height) then
    Scalar.divide (← Scalar.lift (canvas.available canvas.height)) up.extent
  else return wide

def scaleFor {α : Type} [Scalar α] (canvas : Canvas) (across up : Span α) :
    Except PreviewError α := do
  let fitted ← fittedScale canvas across up
  return if Scalar.lt fitted leastScale then leastScale else fitted

structure Frame (α : Type) where
  padding : α
  height : α
  left : α
  bottom : α
  scale : α
deriving DecidableEq

namespace Frame

variable {α : Type} [Scalar α]

def place (canvas : Canvas) (across up : Span α) (scale : α) : Except PreviewError (Frame α) := do
  return ⟨← Scalar.lift canvas.padding, ← Scalar.lift canvas.height, across.low, up.low, scale⟩

def project (frame : Frame α) (x y : α) : α × α :=
  (frame.padding + (x - frame.left) * frame.scale,
    frame.height - (frame.padding + (y - frame.bottom) * frame.scale))

end Frame

end Toolpath
