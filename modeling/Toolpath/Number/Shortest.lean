import Toolpath.Number.Decimal

/-! The fewest decimal digits that read back as the same binary number, and the nearest of those. -/

namespace Toolpath

namespace Shortest

variable {format : Format}

def enough : Nat := 17

/-- The neighbour on the grid with `count` digits that reads back as the given magnitude. -/
def onGrid? (steps count : Nat) (target : Binary format) : Option Decimal :=
  let unit := Decimal.order steps format.one + 1 - (count : Int)
  let scaled := Decimal.scale steps format.one (-unit)
  let floor := scaled.1 / scaled.2
  let near := halfEven scaled.1 scaled.2
  let far := if near = floor then floor + 1 else floor
  [near, far].findSome? fun digits =>
    let candidate : Decimal := ⟨false, digits, unit⟩
    if Binary.ofDecimal candidate = target then some candidate else none

def digits (steps : Nat) (target : Binary format) : Decimal :=
  let found := (List.range enough).findSome? fun index => onGrid? steps (index + 1) target
  found.getD ⟨false, steps, 0⟩

end Shortest

end Toolpath
