import Toolpath.Preview
import Toolpath.Text.Utf8

/-! The head of a PNG image, which depends on the canvas alone; the pixels come from the surface. -/

namespace Toolpath.Png

def bigEndian (count value : Nat) : List UInt8 :=
  ((List.range count).map fun index => UInt8.ofNat (value / Nat.pow 256 index)).reverse

def checkBit (remainder : UInt32) : UInt32 :=
  if remainder &&& 1 = 1 then (remainder >>> 1) ^^^ 0xEDB88320 else remainder >>> 1

def checkByte (remainder : UInt32) (byte : UInt8) : UInt32 :=
  Nat.repeat checkBit 8 (remainder ^^^ byte.toUInt32)

def check (bytes : List UInt8) : UInt32 := bytes.foldl checkByte 0xFFFFFFFF ^^^ 0xFFFFFFFF

def signature : List UInt8 := [0x89, 0x50, 0x4E, 0x47, 0x0D, 0x0A, 0x1A, 0x0A]

def chunk (name : String) (data : List UInt8) : List UInt8 :=
  let body := Text.encodeUtf8 name.toList ++ data
  bigEndian 4 data.length ++ body ++ bigEndian 4 (check body).toNat

/-- Eight bits for each of red, green, blue and alpha, with the standard compression and filter and
no interlacing. -/
def pixelFormat : List UInt8 := [8, 6, 0, 0, 0]

def head (canvas : Canvas) : List UInt8 :=
  signature ++ chunk "IHDR" (bigEndian 4 canvas.width ++ bigEndian 4 canvas.height ++ pixelFormat)

end Toolpath.Png
