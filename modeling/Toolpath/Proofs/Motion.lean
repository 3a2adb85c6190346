import Mathlib.Data.List.Induction
import Toolpath.Geometry

/-! What a program makes the machine do. A run is determined by the states between the lines
(`Machine.state_run`) and by recording its moves one by one (`Machine.stack_run`). -/

namespace Toolpath

namespace Command

def isMove (command : Command) : Bool := command.code = "G0" || command.code = "G1"

def lastTool (commands : List Command) : Int := ((commands.filterMap Command.tool).getLast?).getD 0

def unnumbered (command : Command) : Command := { command with line := 0 }

theorem lastTool_concat (before : List Command) (command : Command) :
    lastTool (before ++ [command]) = command.tool.getD (lastTool before) := by
  unfold lastTool
  cases marker : command.tool with
  | none => simp [marker]
  | some tool => simp [marker]

end Command

namespace Action

theorem ofCode_eq_move (command : Command) :
    ofCode command.code = move ↔ command.isMove = true := by
  unfold ofCode Command.isMove
  split
  · rename_i linear
    simp [linear]
  · rename_i other
    simp only [other]
    repeat' split
    all_goals simp

theorem code_of_setting {code : String} {action : Action} (read : ofCode code = action) :
    match action with
    | absolute => code = "G90"
    | relative => code = "G91"
    | reposition => code = "G92"
    | _ => True := by
  unfold ofCode at read
  repeat' split at read
  all_goals
    subst read
    simp_all

theorem ofCode_eq_absolute (code : String) : ofCode code = absolute ↔ code = "G90" :=
  ⟨code_of_setting, fun same => same ▸ rfl⟩

theorem ofCode_eq_relative (code : String) : ofCode code = relative ↔ code = "G91" :=
  ⟨code_of_setting, fun same => same ▸ rfl⟩

theorem ofCode_eq_reposition (code : String) : ofCode code = reposition ↔ code = "G92" :=
  ⟨code_of_setting, fun same => same ▸ rfl⟩

theorem ofCode_of_isNoop (command : Command) (noop : command.isNoop = true) :
    ofCode command.code = unknown := by
  simp only [Command.isNoop, decide_eq_true_eq] at noop
  rw [noop]
  rfl

end Action

namespace State

def marked (state : State) (command : Command) : State :=
  { state with tool := command.tool.getD state.tool }

def step (offset : Double) (state : State) (command : Command) : State :=
  match Action.ofCode command.code with
  | .move => (state.marked command).moved offset command
  | .absolute => { state.marked command with relative := false }
  | .relative => { state.marked command with relative := true }
  | .reposition => (state.marked command).repositioned command
  | .arc => state.marked command
  | .unknown => state.marked command

def after (offset : Double) (commands : List Command) : State := commands.foldl (step offset) initial

@[simp] theorem after_nil (offset : Double) : after offset [] = initial := rfl

theorem after_concat (offset : Double) (before : List Command) (command : Command) :
    after offset (before ++ [command]) = (after offset before).step offset command := by
  simp [after]

theorem tool_step (offset : Double) (state : State) (command : Command) :
    (state.step offset command).tool = command.tool.getD state.tool := by
  unfold step
  split <;> rfl

theorem tool_after (offset : Double) (commands : List Command) :
    (after offset commands).tool = Command.lastTool commands := by
  induction commands using List.reverseRecOn with
  | nil => rfl
  | append_singleton before command ih =>
      rw [after_concat, tool_step, ih, Command.lastTool_concat]

theorem extrusion_moved (state : State) (offset : Double) (command : Command) :
    ((state.marked command).moved offset command).extruding =
      (Binary.zero false).lt
        (if state.relative then (command.value? "e").getD (.zero false)
        else ((state.marked command).moved offset command).get .e - state.get .e) := by
  rfl

theorem step_of_isMove (offset : Double) (state : State) (command : Command)
    (linear : command.isMove = true) :
    state.step offset command = (state.marked command).moved offset command := by
  rw [← Action.ofCode_eq_move] at linear
  simp only [step, linear]

end State

/-- A linear move as it takes place: from where to where, whether it extrudes, and with which
tool. -/
structure Move where
  start : Point
  stop : Point
  extruding : Bool
  tool : Int
deriving DecidableEq

namespace Move

/-- The move that a command makes after the commands before it: from where the machine stands before
the line to where it stands after it. It extrudes by the extruder's argument when positions are
relative and by its advance when they are absolute; a tool marker on the line itself counts. -/
def ofLine (offset : Double) (before : List Command) (command : Command) : Move :=
  let state := State.after offset before
  let next := State.after offset (before ++ [command])
  { start := ⟨state.get .x, state.get .y, state.get .z⟩
    stop := ⟨next.get .x, next.get .y, next.get .z⟩
    extruding := (Binary.zero false).lt
      (if state.relative then (command.value? "e").getD (.zero false)
        else next.get .e - state.get .e)
    tool := Command.lastTool (before ++ [command]) }

theorem ofLine_of_isMove (offset : Double) (before : List Command) (command : Command)
    (linear : command.isMove = true) :
    ofLine offset before command =
      let state := (State.after offset before).marked command
      let next := state.moved offset command
      ⟨state.position, next.position, next.extruding, state.tool⟩ := by
  have next := State.after_concat offset before command
  rw [State.step_of_isMove _ _ _ linear] at next
  have tool := State.tool_after offset (before ++ [command])
  rw [next] at tool
  have extrusion := State.extrusion_moved (State.after offset before) offset command
  simp only [ofLine, next, ← tool, ← extrusion]
  rfl

def kind (move : Move) : Kind :=
  if move.extruding = true ∧ move.tool = 1 then .extruded
  else if move.extruding = true ∧ move.tool = 0 then .support
  else .travel

theorem kind_eq_ofMove (move : Move) : move.kind = .ofMove move.extruding move.tool := by
  simp [kind, Kind.ofMove]

def segment (move : Move) : Segment := ⟨move.start, move.stop, move.kind⟩

end Move

def movesAfter (offset : Double) (before : List Command) : List Command → List Move
  | [] => []
  | command :: rest =>
    (if command.isMove then [Move.ofLine offset before command] else []) ++
      movesAfter offset (before ++ [command]) rest

def moves (offset : Double) (commands : List Command) : List Move := movesAfter offset [] commands

@[simp] theorem moves_nil (offset : Double) : moves offset [] = [] := rfl

theorem movesAfter_concat (offset : Double) (command : Command) : ∀ commands before : List Command,
    movesAfter offset before (commands ++ [command]) = movesAfter offset before commands ++
      if command.isMove then [Move.ofLine offset (before ++ commands) command] else [] := by
  intro commands
  induction commands with
  | nil => simp [movesAfter]
  | cons first rest ih =>
      intro before
      simp only [List.cons_append, movesAfter, ih, List.append_assoc, List.nil_append]

theorem moves_concat (offset : Double) (before : List Command) (command : Command) :
    moves offset (before ++ [command]) =
      moves offset before ++ if command.isMove then [Move.ofLine offset before command] else [] := by
  simpa [moves] using movesAfter_concat offset command before []

theorem moves_append (offset : Double) (past future : List Command) :
    moves offset (past ++ future) = moves offset past ++ movesAfter offset past future := by
  induction future using List.reverseRecOn with
  | nil => simp [movesAfter]
  | append_singleton before command ih =>
      rw [← List.append_assoc, moves_concat, ih, movesAfter_concat, List.append_assoc]

theorem length_moves (offset : Double) (commands : List Command) :
    (moves offset commands).length = commands.countP Command.isMove := by
  induction commands using List.reverseRecOn with
  | nil => rfl
  | append_singleton before command ih =>
      rw [moves_concat, List.length_append, ih, List.countP_append, List.countP_singleton]
      split <;> simp

namespace Diagnostics

def step (diagnostics : Diagnostics) (command : Command) : Diagnostics :=
  let counted := diagnostics.countLine
  if command.isNoop then counted
  else
    let noted := counted.noteMalformed command
    match Action.ofCode command.code with
    | .move => noted.countMove
    | .arc => noted.skip .arc command
    | .unknown => noted.skip .unknown command
    | .absolute => noted
    | .relative => noted
    | .reposition => noted

end Diagnostics

namespace Stack

def record (settings : Settings) (stack : Stack) (move : Move) : Stack :=
  let opened :=
    if (move.extruding || settings.travelStartsLayer) && stack.needsLayerAt move.stop.z then
      stack.startLayer move.stop.z
    else stack
  opened.add move.segment

end Stack

namespace Machine

theorem run_cons (settings : Settings) (machine : Machine) (command : Command)
    (rest : List Command) :
    machine.run settings (command :: rest) = (machine.step settings command).run settings rest :=
  rfl

theorem run_concat (settings : Settings) (machine : Machine) (before : List Command)
    (command : Command) :
    machine.run settings (before ++ [command]) =
      (machine.run settings before).step settings command := by
  simp [run]

theorem run_append (settings : Settings) (machine : Machine) (before after : List Command) :
    machine.run settings (before ++ after) = (machine.run settings before).run settings after :=
  List.foldl_append

theorem marked_eq (machine : Machine) (command : Command) :
    machine.marked command = { machine with state := machine.state.marked command } := by
  unfold marked selectTool State.marked
  cases command.tool <;> rfl

theorem state_step (settings : Settings) (machine : Machine) (command : Command) :
    (machine.step settings command).state =
      machine.state.step settings.toolOffset command := by
  simp only [step, marked_eq]
  split
  · rename_i noop
    rw [State.step, Action.ofCode_of_isNoop command noop]
  · unfold act State.step
    cases Action.ofCode command.code <;> rfl

theorem diagnostics_step (settings : Settings) (machine : Machine) (command : Command) :
    (machine.step settings command).diagnostics = machine.diagnostics.step command := by
  simp only [step, marked_eq, Diagnostics.step]
  split
  · rfl
  · unfold act
    cases Action.ofCode command.code <;> rfl

theorem state_run (settings : Settings) (commands : List Command) :
    (initial.run settings commands).state = State.after settings.toolOffset commands := by
  induction commands using List.reverseRecOn with
  | nil => rfl
  | append_singleton before command ih => rw [run_concat, state_step, ih, State.after_concat]

theorem diagnostics_run (settings : Settings) (commands : List Command) :
    (initial.run settings commands).diagnostics =
      commands.foldl Diagnostics.step Diagnostics.empty := by
  induction commands using List.reverseRecOn with
  | nil => rfl
  | append_singleton before command ih =>
      rw [run_concat, diagnostics_step, ih, List.foldl_append, List.foldl_cons, List.foldl_nil]

theorem stack_step (settings : Settings) (machine : Machine) (command : Command) :
    (machine.step settings command).stack =
      if command.isMove then
        let state := machine.state.marked command
        (stackFor settings machine.stack (state.moved settings.toolOffset command)).add
          (segment settings state command)
      else machine.stack := by
  by_cases linear : command.isMove = true
  · have action := (Action.ofCode_eq_move command).mpr linear
    have named : command.isNoop = false := by
      by_contra noop
      rw [Action.ofCode_of_isNoop command (by simpa using noop)] at action
      contradiction
    simp [step, marked_eq, named, act, action, linear, move]
  · have action : Action.ofCode command.code ≠ .move :=
      fun moving => linear ((Action.ofCode_eq_move command).mp moving)
    simp only [step, marked_eq, linear, Bool.false_eq_true, if_false]
    split
    · rfl
    · unfold act
      split
      · contradiction
      all_goals rfl

theorem add_segment_eq_record (settings : Settings) (stack : Stack) (state : State)
    (command : Command) :
    let next := state.moved settings.toolOffset command
    (stackFor settings stack next).add (segment settings state command) =
      stack.record settings ⟨state.position, next.position, next.extruding, state.tool⟩ := by
  simp only [Stack.record, Move.segment, Move.kind_eq_ofMove]
  rfl

theorem stack_run (settings : Settings) (commands : List Command) :
    (initial.run settings commands).stack =
      (moves settings.toolOffset commands).foldl (Stack.record settings) Stack.empty := by
  induction commands using List.reverseRecOn with
  | nil => rfl
  | append_singleton before command ih =>
      rw [run_concat, stack_step, state_run, moves_concat, ih]
      by_cases linear : command.isMove = true
      · simp only [linear, if_true, List.foldl_append, List.foldl_cons, List.foldl_nil,
          Move.ofLine_of_isMove _ _ _ linear, add_segment_eq_record]
      · simp [linear]

theorem stack_run_concat (settings : Settings) (before : List Command) (command : Command) :
    (initial.run settings (before ++ [command])).stack =
      if command.isMove then
        (initial.run settings before).stack.record settings
          (Move.ofLine settings.toolOffset before command)
      else (initial.run settings before).stack := by
  rw [stack_run, stack_run, moves_concat]
  split <;> simp

/-- Neither the state nor the layers go by the numbers of the lines, nor by the account of them. -/
theorem motion_run_congr (settings : Settings) {program other : List Command}
    (same : program.map Command.unnumbered = other.map Command.unnumbered) {left right : Machine}
    (state : left.state = right.state) (stack : left.stack = right.stack) :
    (left.run settings program).state = (right.run settings other).state ∧
      (left.run settings program).stack = (right.run settings other).stack := by
  induction program generalizing other left right with
  | nil =>
      rw [List.map_nil, eq_comm, List.map_eq_nil_iff] at same
      subst same
      exact ⟨state, stack⟩
  | cons command rest ih =>
      obtain ⟨twin, later, rfl, alike, following⟩ := List.map_eq_cons_iff.mp same.symm
      apply ih following.symm
      · have stepped := congrArg (right.state.step settings.toolOffset) alike
        rw [state_step, state_step, state]
        exact stepped.symm
      · have stepped := congrArg (fun read => (right.step settings read).stack) alike
        simp only [stack_step] at stepped
        rw [stack_step, stack_step, state, stack]
        exact stepped.symm

end Machine

end Toolpath
