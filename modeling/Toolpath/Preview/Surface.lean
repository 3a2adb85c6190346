import Toolpath.Preview

/-! Drawing surfaces. A surface accepts calls until it refuses one, which ends the drawing. -/

namespace Toolpath

inductive SurfaceError where
  | pastWord
  | pastLongWord
  | rowTooLong
deriving DecidableEq

namespace SurfaceError

/-- A row that is too long is refused without a word. -/
def message : SurfaceError → String
  | pastWord => "signed integer is greater than maximum"
  | pastLongWord => "Python int too large to convert to C long"
  | rowTooLong => ""

end SurfaceError

/-- What a surface accepts of a drawing, which images it can write, and the bytes that it encodes
the pixels of a drawing by. -/
structure Surface where
  accept : DrawCall → Except SurfaceError Unit
  writes : Canvas → Bool
  pixels : List DrawCall → List UInt8

namespace Surface

def acceptAll (surface : Surface) : List DrawCall → Except SurfaceError Unit
  | [] => .ok ()
  | call :: rest => do
    surface.accept call
    surface.acceptAll rest

def acceptMeasure (measure : Int) : Except SurfaceError Unit :=
  if measure < Nat.pow 2 31 then .ok ()
  else if measure < Nat.pow 2 63 then .error .pastWord
  else .error .pastLongWord

/-- A surface that counts pixels in words of 32 bits, and on a canvas four bytes for each of them in
the same words. It writes an image as far as its head. -/
def standard : Surface where
  accept
    | .canvas size _ => do
      acceptMeasure size.width
      acceptMeasure size.height
      if size.width < Nat.pow 2 29 - 1 then .ok () else .error .rowTooLong
    | .line _ _ _ width => acceptMeasure width
    | .text _ _ _ _ => .ok ()
  writes size := size.width ≤ Nat.pow 2 26 - 8
  pixels _ := []

end Surface

end Toolpath
