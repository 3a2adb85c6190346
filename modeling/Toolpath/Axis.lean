/-!
The five quantities a linear move drives, and records with one entry for each of them.
-/

namespace Toolpath

inductive Axis where
  | x
  | y
  | z
  | e
  | f
deriving DecidableEq

namespace Axis

def letter : Axis → String
  | x => "x"
  | y => "y"
  | z => "z"
  | e => "e"
  | f => "f"

/-- Tells whether setting the position may change the axis: all but the feed rate. -/
def isPosition : Axis → Bool
  | f => false
  | _ => true

def all : List Axis := [x, y, z, e, f]

theorem mem_all (axis : Axis) : axis ∈ all := by cases axis <;> decide

end Axis

structure PerAxis (α : Type) where
  x : α
  y : α
  z : α
  e : α
  f : α
deriving DecidableEq

namespace PerAxis

variable {α : Type}

def get (values : PerAxis α) : Axis → α
  | .x => values.x
  | .y => values.y
  | .z => values.z
  | .e => values.e
  | .f => values.f

def ofFn (value : Axis → α) : PerAxis α := ⟨value .x, value .y, value .z, value .e, value .f⟩

@[simp] theorem get_ofFn (value : Axis → α) (axis : Axis) : (ofFn value).get axis = value axis := by
  cases axis <;> rfl

theorem eq_of_get {left right : PerAxis α} (same : ∀ axis, left.get axis = right.get axis) :
    left = right := by
  cases left
  cases right
  simp only [mk.injEq]
  exact ⟨same .x, same .y, same .z, same .e, same .f⟩

end PerAxis

end Toolpath
