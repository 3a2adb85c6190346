/-!
Sets of characters given as ranges of code points.
-/

namespace Toolpath.Text

structure CodeRange where
  first : Nat
  last : Nat

def within (ranges : List CodeRange) (char : Char) : Bool :=
  ranges.any fun range => range.first ≤ char.toNat && char.toNat ≤ range.last

end Toolpath.Text
