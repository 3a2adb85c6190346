import Toolpath.Number.Binary

/-!
Decimals, and the binary number nearest to one. An exponent so large or so small that the digits no
longer matter is settled without computing the power.
-/

namespace Toolpath

structure Decimal where
  negative : Bool
  digits : Nat
  exponent : Int
deriving DecidableEq

namespace Decimal

def width (value : Nat) : Nat := (Nat.toDigits 10 value).length

/-- The exponent of the leading digit of a positive quotient: the `order` with
`10 ^ order ≤ numerator / denominator < 10 ^ (order + 1)`. -/
def order (numerator denominator : Nat) : Int :=
  if denominator ≤ numerator then (width (numerator / denominator) : Int) - 1
  else -(width ((denominator - 1) / numerator) : Int)

def scale (numerator denominator : Nat) (power : Int) : Nat × Nat :=
  match power with
  | .ofNat exponent => (numerator * Nat.pow 10 exponent, denominator)
  | .negSucc exponent => (numerator, denominator * Nat.pow 10 (exponent + 1))

end Decimal

namespace Binary

variable {format : Format}

/-- The binary number nearest to a decimal. A power of ten past the reach is infinite whatever the
digits; one that leaves less than half a step is zero. -/
def ofDecimal (decimal : Decimal) : Binary format :=
  if decimal.digits = 0 then zero decimal.negative
  else if (format.reach : Int) < decimal.exponent then infinite decimal.negative
  else if decimal.exponent + (decimal.digits.log2 + 2 + format.fraction : Nat) < 0 then
    zero decimal.negative
  else
    let exact := Decimal.scale (decimal.digits * format.one) 1 decimal.exponent
    round decimal.negative exact.1 exact.2

end Binary

end Toolpath
