import Toolpath.Number.Shortest

/-!
How numbers are written: the shortest text that reads back, six significant digits, a fixed number
of places, and the bit pattern in hexadecimal.
-/

namespace Toolpath

/-- Where positional writing begins and ends, and whether `.0` follows a whole number. -/
structure Style where
  lowest : Int
  highest : Int
  keepsPoint : Bool

namespace Style

/-- Reports write `0.0001` and `1000000000000000.0` in full, and `1e-05` and `1e+16` by exponent. -/
def report : Style := ⟨-4, 15, true⟩

/-- Summaries write six significant digits: `0.0001` and `100000` in full, `1e+06` by exponent. -/
def summary : Style := ⟨-4, 5, false⟩

def summaryDigits : Nat := 6

def exponentText (order : Int) : String :=
  let magnitude := toString order.natAbs
  let padded := if magnitude.length < 2 then "0" ++ magnitude else magnitude
  (if order < 0 then "e-" else "e+") ++ padded

def write (style : Style) (digits : List Char) (order : Int) : String :=
  if order < style.lowest || style.highest < order then
    match digits with
    | [] => ""
    | [lead] => String.singleton lead ++ exponentText order
    | lead :: rest => String.singleton lead ++ "." ++ String.ofList rest ++ exponentText order
  else if order < 0 then
    "0." ++ String.ofList (List.replicate (order.natAbs - 1) '0' ++ digits)
  else
    let whole := digits.take (order.natAbs + 1)
    let padding := List.replicate (order.natAbs + 1 - digits.length) '0'
    let rest := digits.drop (order.natAbs + 1)
    let tail := if rest.isEmpty then if style.keepsPoint then ".0" else "" else
      "." ++ String.ofList rest
    String.ofList (whole ++ padding) ++ tail

def writeDecimal (style : Style) (decimal : Decimal) : String :=
  let digits := Nat.toDigits 10 decimal.digits
  let significant := (digits.reverse.dropWhile (· == '0')).reverse
  style.write significant (decimal.exponent + digits.length - 1)

end Style

namespace Binary

variable {format : Format}

def signText (negative : Bool) : String := if negative then "-" else ""

def shortestText : Binary format → String
  | nan => "nan"
  | infinite negative => signText negative ++ "inf"
  | finite negative steps exact =>
    signText negative ++
      if steps = 0 then "0.0"
      else Style.report.writeDecimal (Shortest.digits steps (finite false steps exact))

def summaryText : Binary format → String
  | nan => "nan"
  | infinite negative => signText negative ++ "inf"
  | finite negative steps _ =>
    signText negative ++
      if steps = 0 then "0"
      else
        let unit := Decimal.order steps format.one + 1 - (Style.summaryDigits : Int)
        let scaled := Decimal.scale steps format.one (-unit)
        Style.summary.writeDecimal ⟨false, halfEven scaled.1 scaled.2, unit⟩

/-- Two places after the point, rounded from the exact value; a negative number keeps its sign even
when every digit left is zero. -/
def placesText : Binary format → String
  | nan => "nan"
  | infinite negative => signText negative ++ "inf"
  | finite negative steps _ =>
    let hundredths := halfEven (steps * 100) format.one
    let digits := Nat.toDigits 10 (hundredths % 100)
    let places := List.replicate (2 - digits.length) '0' ++ digits
    signText negative ++ toString (hundredths / 100) ++ "." ++ String.ofList places

def magnitudePattern (format : Format) (steps : Nat) : Nat :=
  let excess := steps.log2 + 1 - format.precision
  excess * Nat.pow 2 (format.precision - 1) + steps / Nat.pow 2 excess

def signWeight (format : Format) : Nat :=
  (format.reach - format.precision + 3) * Nat.pow 2 (format.precision - 1)

def pattern? : Binary format → Option Nat
  | nan => none
  | infinite negative =>
    some ((if negative then signWeight format else 0) + magnitudePattern format format.limit)
  | finite negative steps _ =>
    some ((if negative then signWeight format else 0) + magnitudePattern format steps)

end Binary

end Toolpath
