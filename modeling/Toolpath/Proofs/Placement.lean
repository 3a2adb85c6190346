import Mathlib.Data.List.DropRight
import Toolpath.Proofs.Motion

/-!
Where a program leaves each axis: where the last line that sets it puts it, moved on by the lines
since.
-/

namespace Toolpath

namespace Command

def mode? (command : Command) : Option Bool :=
  if command.code = "G90" then some false
  else if command.code = "G91" then some true
  else none

def lastMode (commands : List Command) : Bool := ((commands.filterMap mode?).getLast?).getD false

theorem lastMode_concat (before : List Command) (command : Command) :
    lastMode (before ++ [command]) = command.mode?.getD (lastMode before) := by
  unfold lastMode
  cases mode : command.mode? with
  | none => simp [mode]
  | some relative => simp [mode]

end Command

inductive Write where
  | set (value : Double)
  | advance (amount : Double)
deriving DecidableEq

namespace Write

def set? : Write → Option Double
  | set value => some value
  | advance _ => none

def advance? : Write → Option Double
  | set _ => none
  | advance amount => some amount

/-- Where an axis stands after some writes: at the last value set, or else at zero, with every amount
since then added to it. -/
def settled (writes : List Write) : Double :=
  ((writes.rtakeWhile (·.set?.isNone)).filterMap advance?).foldl (· + ·)
    ((writes.filterMap set?).getLast?.getD (.zero false))

theorem settled_set (writes : List Write) (value : Double) :
    settled (writes ++ [set value]) = value := by
  simp [settled, set?]

theorem settled_advance (writes : List Write) (amount : Double) :
    settled (writes ++ [advance amount]) = settled writes + amount := by
  simp [settled, set?, advance?]

/-- What a line writes to an axis after the lines before it. A tool marker on the line itself
counts, a mode that is set later does not. -/
def ofLine? (offset : Double) (axis : Axis) (before : List Command) (command : Command) :
    Option Write :=
  (command.value? axis.letter).bind fun value =>
    if command.isMove then
      let second := Command.lastTool (before ++ [command]) = 1
      let argument := if axis = .x ∧ second then value - offset else value
      some (if Command.lastMode before then .advance argument else .set argument)
    else if command.code = "G92" ∧ axis.isPosition then some (.set value)
    else none

def onto (place : Double) : Option Write → Double
  | none => place
  | some (set value) => value
  | some (advance amount) => place + amount

theorem settled_append (writes : List Write) (write : Option Write) :
    settled (writes ++ write.toList) = onto (settled writes) write := by
  cases write with
  | none => simp [onto]
  | some write =>
      cases write with
      | set value => exact settled_set writes value
      | advance amount => exact settled_advance writes amount

end Write

def writesAfter (offset : Double) (axis : Axis) (before : List Command) : List Command → List Write
  | [] => []
  | command :: rest =>
    (Write.ofLine? offset axis before command).toList ++
      writesAfter offset axis (before ++ [command]) rest

def writes (offset : Double) (axis : Axis) (commands : List Command) : List Write :=
  writesAfter offset axis [] commands

theorem writesAfter_concat (offset : Double) (axis : Axis) (command : Command) :
    ∀ commands before : List Command,
      writesAfter offset axis before (commands ++ [command]) =
        writesAfter offset axis before commands ++
          (Write.ofLine? offset axis (before ++ commands) command).toList := by
  intro commands
  induction commands with
  | nil => simp [writesAfter]
  | cons first rest ih =>
      intro before
      simp only [List.cons_append, writesAfter, ih, List.append_assoc, List.nil_append]

theorem writes_concat (offset : Double) (axis : Axis) (before : List Command) (command : Command) :
    writes offset axis (before ++ [command]) =
      writes offset axis before ++ (Write.ofLine? offset axis before command).toList := by
  simpa [writes] using writesAfter_concat offset axis command before []

namespace State

theorem relative_step (offset : Double) (state : State) (command : Command) :
    (state.step offset command).relative = command.mode?.getD state.relative := by
  have absolute := Action.ofCode_eq_absolute command.code
  have relative := Action.ofCode_eq_relative command.code
  unfold step Command.mode?
  cases action : Action.ofCode command.code with
  | absolute => simp_all
  | relative => simp_all
  | move | arc | reposition | unknown =>
      rw [action] at absolute relative
      rw [if_neg fun same => by simpa using absolute.mpr same,
        if_neg fun same => by simpa using relative.mpr same]
      rfl

theorem relative_after (offset : Double) (commands : List Command) :
    (after offset commands).relative = Command.lastMode commands := by
  induction commands using List.reverseRecOn with
  | nil => rfl
  | append_singleton before command ih =>
      rw [after_concat, relative_step, ih, Command.lastMode_concat]

theorem get_moved (offset : Double) (axis : Axis) (state : State) (command : Command) :
    (state.moved offset command).get axis = state.target offset command axis :=
  PerAxis.get_ofFn _ axis

theorem get_repositioned (axis : Axis) (state : State) (command : Command) :
    (state.repositioned command).get axis =
      if axis.isPosition then (command.value? axis.letter).getD (state.get axis)
      else state.get axis :=
  PerAxis.get_ofFn _ axis

theorem get_step_of_not_isMove (offset : Double) (axis : Axis) (state : State) (command : Command)
    (still : ¬command.isMove = true) :
    (state.step offset command).get axis =
      if command.code = "G92" ∧ axis.isPosition = true then
        (command.value? axis.letter).getD (state.get axis)
      else state.get axis := by
  have reposition := Action.ofCode_eq_reposition command.code
  unfold step
  cases action : Action.ofCode command.code with
  | move => exact absurd ((Action.ofCode_eq_move command).mp action) still
  | reposition =>
      rw [action, eq_self, true_iff] at reposition
      simp only [reposition, true_and, get_repositioned]
      rfl
  | arc | absolute | relative | unknown =>
      rw [action] at reposition
      rw [if_neg fun same => by simpa using reposition.mpr same.1]
      rfl

theorem get_step (offset : Double) (axis : Axis) (before : List Command) (command : Command) :
    ((after offset before).step offset command).get axis =
      Write.onto ((after offset before).get axis) (Write.ofLine? offset axis before command) := by
  have relative := relative_after offset before
  have tool := tool_after offset (before ++ [command])
  rw [after_concat, tool_step] at tool
  unfold Write.ofLine?
  rw [← relative, ← tool]
  generalize after offset before = state
  by_cases linear : command.isMove = true
  · rw [step_of_isMove _ _ _ linear, get_moved, target, argument?]
    cases command.value? axis.letter with
    | none => rfl
    | some value =>
        have argument : (if axis = .x && (state.marked command).tool = 1 then value - offset
            else value) =
            if axis = .x ∧ command.tool.getD state.tool = 1 then value - offset else value := by
          simp only [Bool.and_eq_true, decide_eq_true_eq]
          rfl
        have kept : (state.marked command).relative = state.relative := rfl
        simp only [Option.map_some, Option.bind_some, argument, kept, linear, if_true]
        by_cases mode : state.relative = true
        · rw [if_pos mode, if_pos mode]
          rfl
        · rw [if_neg mode, if_neg mode]
          rfl
  · rw [get_step_of_not_isMove _ _ _ _ linear]
    cases command.value? axis.letter with
    | none => simp [Write.onto]
    | some value =>
        simp only [Option.bind_some, linear, if_false, Bool.false_eq_true, Option.getD_some]
        split <;> rfl

theorem get_after (offset : Double) (axis : Axis) (commands : List Command) :
    (after offset commands).get axis = Write.settled (writes offset axis commands) := by
  induction commands using List.reverseRecOn with
  | nil => cases axis <;> rfl
  | append_singleton before command ih =>
      rw [after_concat, get_step, ih, writes_concat, Write.settled_append]

end State

theorem writes_eq_nil {offset : Double} {axis : Axis} {commands : List Command}
    (silent : ∀ command ∈ commands, command.isMove = true ∨ command.code = "G92" →
      command.has axis.letter = false) : writes offset axis commands = [] := by
  induction commands using List.reverseRecOn with
  | nil => rfl
  | append_singleton before command ih =>
      rw [List.forall_mem_append, List.forall_mem_singleton] at silent
      rw [writes_concat, ih silent.1, List.nil_append, Option.toList_eq_nil_iff]
      unfold Write.ofLine?
      cases given : command.value? axis.letter with
      | none => rfl
      | some value =>
          have carried : ¬command.has axis.letter = false := by
            obtain ⟨param, found, _⟩ := Option.map_eq_some_iff.mp given
            simp [Command.has, found]
          have idle := mt silent.2 carried
          rw [not_or] at idle
          rw [Option.bind_some, if_neg idle.1, if_neg fun both => idle.2 both.1]

/-- After any program an axis stands where its last absolute write puts it, or at zero without one,
moved on by the relative moves since. The mode is that of the last line that sets one, and the tool
that of the last marker. -/
theorem place_eq_settled (settings : Settings) (commands : List Command) :
    let state := (Machine.initial.run settings commands).state
    (∀ axis, state.get axis = Write.settled (writes settings.toolOffset axis commands)) ∧
    (∀ axis, (∀ command ∈ commands, command.isMove = true ∨ command.code = "G92" →
      command.has axis.letter = false) → state.get axis = .zero false) ∧
    state.relative = Command.lastMode commands ∧
    state.tool = Command.lastTool commands := by
  intro state
  have followed : state = State.after settings.toolOffset commands :=
    Machine.state_run settings commands
  rw [followed]
  refine ⟨?_, ?_, ?_, ?_⟩
  · intro axis
    exact State.get_after settings.toolOffset axis commands
  · intro axis silent
    rw [State.get_after, writes_eq_nil silent]
    rfl
  · exact State.relative_after settings.toolOffset commands
  · exact State.tool_after settings.toolOffset commands

theorem place_eq_settled_of_mixed :
    let commands := Command.ofText
      "G1 X9 Z2\nG91 T1\nG1 X2\nG92 X7 F3\nT0 G1 X1\nG1 X1\nG1 X30 T1\nG2 Y5\n".toList
    let state := (Machine.initial.run .standard commands).state
    (∀ command ∈ commands, command.isMove = true ∨ command.code = "G92" →
      command.has "y" = false) ∧
    state.get .y = .zero false ∧
    writes Settings.standard.toolOffset .x commands =
      [.set 9, .advance (2 - 22), .set 7, .advance 1, .advance (30 - 22)] ∧
    state.get .x = 7 + 1 + (30 - 22) ∧ state.relative = true ∧ state.tool = 1 := by
  intro commands state
  obtain ⟨placed, untouched, relative, tool⟩ := place_eq_settled .standard commands
  have silent : ∀ command ∈ commands, command.isMove = true ∨ command.code = "G92" →
      command.has "y" = false := by decide +kernel
  have written : writes Settings.standard.toolOffset .x commands =
      [.set 9, .advance (2 - 22), .set 7, .advance 1, .advance (30 - 22)] := by decide +kernel
  refine ⟨silent, untouched .y silent, written, ?_, ?_, ?_⟩
  · rw [placed, written]
    rfl
  · exact relative.trans (by decide +kernel)
  · exact tool.trans (by decide +kernel)

end Toolpath
