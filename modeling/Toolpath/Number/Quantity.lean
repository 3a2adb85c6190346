import Toolpath.Number.Binary

/-!
A number given from outside: exact when whole, in double precision otherwise.
-/

namespace Toolpath

inductive Quantity where
  | whole (value : Int)
  | real (value : Double)
deriving DecidableEq

inductive ConversionError where
  | wholeTooLarge
  | infinityToWhole
  | nanToWhole
deriving DecidableEq

namespace ConversionError

def message : ConversionError → String
  | wholeTooLarge => "int too large to convert to float"
  | infinityToWhole => "cannot convert float infinity to integer"
  | nanToWhole => "cannot convert float NaN to integer"

end ConversionError

def doubleOfInt (value : Int) : Except ConversionError Double :=
  (Binary.ofInt? value).elim (.error .wholeTooLarge) .ok

def truncateDouble : Double → Except ConversionError Int
  | .nan => .error .nanToWhole
  | .infinite _ => .error .infinityToWhole
  | .finite negative steps _ => .ok (Binary.signed negative (steps / Format.double.one))

namespace Quantity

def toDouble : Quantity → Except ConversionError Double
  | whole value => doubleOfInt value
  | real value => .ok value

def truncate : Quantity → Except ConversionError Int
  | whole value => .ok value
  | real value => truncateDouble value

def minus : Quantity → Quantity → Except ConversionError Quantity
  | whole left, whole right => .ok (whole (left - right))
  | left, right => do return real ((← left.toDouble) - (← right.toDouble))

def equalsInt (quantity : Quantity) (value : Int) : Bool :=
  match quantity with
  | whole number => decide (number = value)
  | real number => number.equalsInt value

end Quantity

end Toolpath
