import Toolpath.Proofs.Motion

/-! The stack keeps the place of the current layer apart from the layers. Every edit of it keeps
that the last place (`Stack.Sound.edit`), and recording is a history of edits. -/

namespace Toolpath

inductive Edit where
  | start (z : Double)
  | add (segment : Segment)
deriving DecidableEq

namespace Edit

def segment? : Edit → Option Segment
  | start _ => none
  | add segment => some segment

def segments (edits : List Edit) : List Segment := edits.filterMap segment?

theorem segments_append (past future : List Edit) :
    segments (past ++ future) = segments past ++ segments future :=
  List.filterMap_append

end Edit

namespace Stack

variable {stack : Stack}

def edit (stack : Stack) : Edit → Stack
  | .start z => stack.startLayer z
  | .add segment => stack.add segment

def edited (stack : Stack) (edits : List Edit) : Stack := edits.foldl edit stack

theorem edited_append (stack : Stack) (past future : List Edit) :
    stack.edited (past ++ future) = (stack.edited past).edited future :=
  List.foldl_append

/-- The current layer is the last one, and there is one as soon as there are layers. -/
def Sound (stack : Stack) : Prop :=
  ∀ place, stack.current = some place ↔ place + 1 = stack.layers.length

theorem sound_empty : empty.Sound := by
  intro place
  simp [empty, layers]

theorem sound_startLayer (stack : Stack) (z : Double) : (stack.startLayer z).Sound := by
  intro place
  simp [startLayer, layers, eq_comm]

theorem current_fill (stack : Stack) (segment : Segment) :
    (stack.fill segment).current = stack.current := by
  unfold fill
  split <;> simp_all

theorem length_layers_fill (stack : Stack) (segment : Segment) :
    (stack.fill segment).layers.length = stack.layers.length := by
  unfold fill
  split <;> simp [layers]

theorem Sound.fill (sound : stack.Sound) (segment : Segment) : (stack.fill segment).Sound := by
  intro place
  rw [current_fill, length_layers_fill]
  exact sound place

theorem Sound.add (sound : stack.Sound) (segment : Segment) : (stack.add segment).Sound := by
  unfold Stack.add
  split
  · exact (sound_startLayer stack segment.start.z).fill segment
  · exact sound.fill segment

theorem Sound.edit (sound : stack.Sound) (change : Edit) : (stack.edit change).Sound := by
  cases change with
  | start z => exact sound_startLayer stack z
  | add segment => exact sound.add segment

theorem Sound.edited (sound : stack.Sound) (edits : List Edit) : (stack.edited edits).Sound := by
  induction edits generalizing stack with
  | nil => exact sound
  | cons change rest ih => exact ih (sound.edit change)

theorem Sound.current?_eq_getLast? (sound : stack.Sound) :
    stack.current? = stack.layers.getLast? := by
  rw [current?, List.getLast?_eq_getElem?]
  cases current : stack.current with
  | none =>
      cases layers : stack.layers.length with
      | zero => simp [List.length_eq_zero_iff.mp layers]
      | succ place => simp [(sound place).mpr layers.symm] at current
  | some place =>
      have last := (sound place).mp current
      rw [← last, Option.bind_some, Nat.add_sub_cancel, layers, Array.getElem?_toList]

theorem Sound.current?_eq_none_iff (sound : stack.Sound) :
    stack.current? = none ↔ stack.layers = [] := by
  rw [sound.current?_eq_getLast?, List.getLast?_eq_none_iff]

def growing (older : List Layer) (newest : Layer) : Stack :=
  ⟨(older ++ [newest]).toArray, some older.length, by simp⟩

theorem eq_of_layers {one two : Stack} (layers : one.layers = two.layers)
    (current : one.current = two.current) : one = two := by
  obtain ⟨_, _, _⟩ := one
  obtain ⟨_, _, _⟩ := two
  simp_all [Stack.layers]

theorem Sound.eq_empty_or_growing (sound : stack.Sound) :
    stack = empty ∨ ∃ older newest, stack = growing older newest := by
  obtain recorded | ⟨older, newest, recorded⟩ := stack.layers.eq_nil_or_concat
  · refine .inl (eq_of_layers recorded ?_)
    cases current : stack.current with
    | none => rfl
    | some place => simpa [recorded] using (sound place).mp current
  · rw [List.concat_eq_append] at recorded
    exact .inr ⟨older, newest, eq_of_layers recorded
      ((sound older.length).mpr (by simp [recorded]))⟩

@[simp] theorem layers_empty : empty.layers = [] := rfl

@[simp] theorem current_empty : empty.current = none := rfl

variable (older : List Layer) (newest : Layer) (z : Double) (segment : Segment)

@[simp] theorem layers_growing : (growing older newest).layers = older ++ [newest] := rfl

@[simp] theorem current_growing : (growing older newest).current = some older.length := rfl

theorem startLayer_eq_growing (stack : Stack) :
    stack.startLayer z = growing stack.layers (.empty z) := by
  apply eq_of_layers <;> simp [startLayer, growing, layers]

@[simp] theorem fill_growing :
    (growing older newest).fill segment = growing older (newest.add segment) := by
  have last : (older ++ [newest]).modify older.length (·.add segment) =
      older ++ [newest.add segment] :=
    List.modifyTailIdx_add _ 0 older [newest]
  apply eq_of_layers <;> simp [fill, growing, layers, last]

@[simp] theorem add_empty :
    empty.add segment = growing [] ((Layer.empty segment.start.z).add segment) := by
  simp [add, startLayer_eq_growing]

@[simp] theorem add_growing :
    (growing older newest).add segment = growing older (newest.add segment) := by
  simp [add]

@[simp] theorem needsLayerAt_empty : empty.needsLayerAt z = true := rfl

@[simp] theorem needsLayerAt_growing :
    (growing older newest).needsLayerAt z = !z.equals newest.z := by
  simp [needsLayerAt, current?, growing]

theorem exists_edits_record (settings : Settings) (stack : Stack) (move : Move) :
    ∃ edits, stack.record settings move = stack.edited edits ∧
      Edit.segments edits = [move.segment] := by
  unfold record
  split
  · exact ⟨[.start move.stop.z, .add move.segment], rfl, rfl⟩
  · exact ⟨[.add move.segment], rfl, rfl⟩

theorem exists_edits_foldl_record (settings : Settings) (stack : Stack) (moves : List Move) :
    ∃ edits, moves.foldl (record settings) stack = stack.edited edits ∧
      Edit.segments edits = moves.map Move.segment := by
  induction moves generalizing stack with
  | nil => exact ⟨[], rfl, rfl⟩
  | cons move rest ih =>
      obtain ⟨first, recorded, added⟩ := exists_edits_record settings stack move
      obtain ⟨later, reached, moved⟩ := ih (stack.record settings move)
      refine ⟨first ++ later, ?_, ?_⟩
      · rw [List.foldl_cons, reached, recorded, edited_append]
      · rw [Edit.segments_append, added, moved]
        rfl

end Stack

end Toolpath
