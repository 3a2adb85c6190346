import Toolpath.Proofs.Motion

/-!
The account of a run is read off its commands (`Machine.account_run`), and the accounts of two parts
make up that of the whole (`Diagnostics.ofCommands_append`).
-/

namespace Toolpath

namespace Command

def skip? (command : Command) : Option Skip :=
  if command.isNoop then none
  else match Action.ofCode command.code with
    | .arc => some ⟨.arc, command.line, command.code⟩
    | .unknown => some ⟨.unknown, command.line, command.code⟩
    | _ => none

def faults (command : Command) : List Malformed :=
  if command.isNoop then []
  else command.malformed.map fun (key, param) => ⟨command.line, key, param.raw⟩

theorem isMove_of_isNoop (command : Command) (noop : command.isNoop = true) :
    command.isMove = false := by
  by_contra linear
  rw [Bool.not_eq_false, ← Action.ofCode_eq_move, Action.ofCode_of_isNoop command noop] at linear
  contradiction

@[simp] theorem length_ofText (text : List Char) :
    (ofText text).length = (Text.lines text).length := by
  simp [ofText, sourceLines]

end Command

namespace Diagnostics

def append (earlier later : Diagnostics) : Diagnostics where
  lines := earlier.lines + later.lines
  moves := earlier.moves + later.moves
  skipped := earlier.skipped ++ later.skipped
  malformed := earlier.malformed ++ later.malformed

instance : Append Diagnostics := ⟨append⟩

def ofCommands (commands : List Command) : Diagnostics where
  lines := commands.length
  moves := commands.countP Command.isMove
  skipped := (commands.filterMap Command.skip?).toArray
  malformed := (commands.flatMap Command.faults).toArray

theorem ofCommands_append (before after : List Command) :
    ofCommands (before ++ after) = ofCommands before ++ ofCommands after := by
  change ofCommands (before ++ after) = (ofCommands before).append (ofCommands after)
  simp [ofCommands, append]

theorem step_eq (diagnostics : Diagnostics) (command : Command) :
    diagnostics.step command = diagnostics ++ ofCommands [command] := by
  change diagnostics.step command = diagnostics.append (ofCommands [command])
  by_cases noop : command.isNoop = true
  · have still := command.isMove_of_isNoop noop
    simp [step, append, ofCommands, Command.skip?, Command.faults, noop, still, countLine]
  · have moves := Action.ofCode_eq_move command
    cases action : Action.ofCode command.code with
    | move =>
        have linear : command.isMove = true := moves.mp action
        simp [step, append, ofCommands, Command.skip?, Command.faults, noop, action, linear,
          countLine, countMove, noteMalformed]
    | arc | unknown | absolute | relative | reposition =>
        have still : command.isMove = false := by
          simpa [action] using moves
        simp [step, append, ofCommands, Command.skip?, Command.faults, noop, action, still,
          countLine, skip, noteMalformed]

theorem foldl_step (before after : List Command) :
    after.foldl step (ofCommands before) = ofCommands (before ++ after) := by
  induction after generalizing before with
  | nil => simp
  | cons command rest ih =>
      rw [List.foldl_cons, step_eq, ← ofCommands_append, ih, List.append_assoc,
        List.singleton_append]

end Diagnostics

theorem Machine.account_run (settings : Settings) (commands : List Command) :
    (initial.run settings commands).diagnostics = .ofCommands commands := by
  rw [diagnostics_run]
  exact Diagnostics.foldl_step [] commands

theorem lines_interpret (settings : Settings) (text : String) :
    (interpret settings text).diagnostics.lines = (Text.lines text.toList).length := by
  rw [interpret, Machine.account_run]
  exact Command.length_ofText _

end Toolpath
