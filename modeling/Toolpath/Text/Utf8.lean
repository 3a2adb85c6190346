/-! Reading UTF-8. A byte that begins no well-formed sequence is dropped. -/

namespace Toolpath.Text

def encodeUtf8 (text : List Char) : List UInt8 := text.flatMap String.utf8EncodeChar

def tailBits (byte : UInt8) : Nat := byte.toNat % 64

def isTail (byte : UInt8) : Bool := 0x80 ≤ byte.toNat && byte.toNat ≤ 0xBF

def twoBytes? (lead second : UInt8) : Option Char :=
  if 0xC2 ≤ lead.toNat && lead.toNat ≤ 0xDF && isTail second then
    some (Char.ofNat (lead.toNat % 32 * 64 + tailBits second))
  else none

def threeBytes? (lead second third : UInt8) : Option Char :=
  let value := lead.toNat % 16 * 4096 + tailBits second * 64 + tailBits third
  if 0xE0 ≤ lead.toNat && lead.toNat ≤ 0xEF && isTail second && isTail third &&
      0x800 ≤ value && !(0xD800 ≤ value && value ≤ 0xDFFF) then
    some (Char.ofNat value)
  else none

def fourBytes? (lead second third fourth : UInt8) : Option Char :=
  let value := lead.toNat % 8 * 262144 + tailBits second * 4096 + tailBits third * 64 +
    tailBits fourth
  if 0xF0 ≤ lead.toNat && lead.toNat ≤ 0xF4 && isTail second && isTail third && isTail fourth &&
      0x10000 ≤ value && value ≤ 0x10FFFF then
    some (Char.ofNat value)
  else none

/-- The character of a well-formed sequence that begins with `lead`, and how many of the following
bytes belong to it. -/
def sequence? (lead : UInt8) (rest : List UInt8) : Option (Char × Nat) :=
  if lead.toNat < 0x80 then some (Char.ofNat lead.toNat, 0)
  else if lead.toNat < 0xE0 then
    match rest with
    | second :: _ => (twoBytes? lead second).map (·, 1)
    | _ => none
  else if lead.toNat < 0xF0 then
    match rest with
    | second :: third :: _ => (threeBytes? lead second third).map (·, 2)
    | _ => none
  else
    match rest with
    | second :: third :: fourth :: _ => (fourBytes? lead second third fourth).map (·, 3)
    | _ => none

def decodeAfter : Nat → List UInt8 → List Char
  | _, [] => []
  | skip + 1, _ :: rest => decodeAfter skip rest
  | 0, lead :: rest =>
    match sequence? lead rest with
    | some (char, more) => char :: decodeAfter more rest
    | none => decodeAfter 0 rest

def decodeUtf8 (bytes : List UInt8) : List Char := decodeAfter 0 bytes

end Toolpath.Text
