import Toolpath.Proofs.Balance
import Toolpath.Proofs.Chunks
import Toolpath.Proofs.Placement

/-! Which lines may be taken out of a text. An inert command leaves no trace but in the account
(`Machine.motion_filter_inert`); the care is for a carriage return that meets a line feed. -/

namespace Toolpath.Text

def prependEnded (char : Char) : List (List Char × List Char) → List (List Char × List Char)
  | [] => [([char], [])]
  | (line, ending) :: rest => (char :: line, ending) :: rest

def endedLines : List Char → List (List Char × List Char)
  | [] => []
  | '\r' :: '\n' :: rest => ([], ['\r', '\n']) :: endedLines rest
  | char :: rest =>
    if isLineBreak char then ([], [char]) :: endedLines rest
    else prependEnded char (endedLines rest)

def joined (ended : List (List Char × List Char)) : List Char :=
  ended.flatMap fun (line, ending) => line ++ ending

@[simp] theorem joined_nil : joined [] = [] := rfl

@[simp] theorem joined_cons (line ending : List Char) (rest : List (List Char × List Char)) :
    joined ((line, ending) :: rest) = line ++ (ending ++ joined rest) := by
  simp [joined]

theorem joined_prependEnded (char : Char) (ended : List (List Char × List Char)) :
    joined (prependEnded char ended) = char :: joined ended := by
  cases ended with
  | nil => rfl
  | cons entry rest => simp [prependEnded, joined]

theorem joined_endedLines (text : List Char) : joined (endedLines text) = text := by
  induction text using endedLines.induct with
  | case1 => rfl
  | case2 rest ih => simp [endedLines, ih]
  | case3 char rest alone breaks ih =>
      rw [endedLines.eq_3 _ _ alone, if_pos breaks, joined_cons, ih]
      rfl
  | case4 char rest alone plain ih =>
      rw [endedLines.eq_3 _ _ alone, if_neg plain, joined_prependEnded, ih]

theorem map_fst_endedLines (text : List Char) : (endedLines text).map Prod.fst = lines text := by
  induction text using endedLines.induct with
  | case1 => rfl
  | case2 rest ih => simp [endedLines, lines, ih]
  | case3 char rest alone breaks ih =>
      rw [endedLines.eq_3 _ _ alone, lines.eq_3 _ _ alone, if_pos breaks, if_pos breaks,
        List.map_cons, ih]
  | case4 char rest alone plain ih =>
      rw [endedLines.eq_3 _ _ alone, lines.eq_3 _ _ alone, if_neg plain, if_neg plain, ← ih]
      cases endedLines rest <;> rfl

/-- Lines without breaks in them, each but perhaps the last one with a break behind it. -/
inductive Cut : List (List Char × List Char) → Prop
  | nil : Cut []
  | last {line : List Char} (filled : line ≠ []) (plain : Unbroken line) : Cut [(line, [])]
  | pair {line : List Char} {rest : List (List Char × List Char)} (plain : Unbroken line)
      (following : Cut rest) : Cut ((line, ['\r', '\n']) :: rest)
  | single {line : List Char} {rest : List (List Char × List Char)} {char : Char}
      (plain : Unbroken line) (breaks : isLineBreak char = true) (following : Cut rest) :
      Cut ((line, [char]) :: rest)

theorem Cut.prependEnded {ended : List (List Char × List Char)} {char : Char} (cut : Cut ended)
    (plain : isLineBreak char = false) : Cut (prependEnded char ended) := by
  cases cut with
  | nil => exact .last (by simp) (by simpa [Unbroken] using plain)
  | last _ others => exact .last (by simp) (unbroken_cons.mpr ⟨plain, others⟩)
  | pair others following => exact .pair (unbroken_cons.mpr ⟨plain, others⟩) following
  | single others breaks following =>
      exact .single (unbroken_cons.mpr ⟨plain, others⟩) breaks following

theorem cut_endedLines (text : List Char) : Cut (endedLines text) := by
  have empty : Unbroken [] := List.forall_mem_nil _
  induction text using endedLines.induct with
  | case1 => exact .nil
  | case2 rest ih => exact .pair empty ih
  | case3 char rest alone breaks ih =>
      rw [endedLines.eq_3 _ _ alone, if_pos breaks]
      exact .single empty breaks ih
  | case4 char rest alone plain ih =>
      rw [endedLines.eq_3 _ _ alone, if_neg plain]
      exact ih.prependEnded (by simpa using plain)

theorem Cut.filter {ended : List (List Char × List Char)} (cut : Cut ended)
    (keep : List Char × List Char → Bool) : Cut (ended.filter keep) := by
  induction cut with
  | nil => exact .nil
  | last filled plain =>
      rw [List.filter_cons]
      split
      · exact .last filled plain
      · exact .nil
  | pair plain following ih =>
      rw [List.filter_cons]
      split
      · exact .pair plain ih
      · exact ih
  | single plain breaks following ih =>
      rw [List.filter_cons]
      split
      · exact .single plain breaks ih
      · exact ih

theorem filter_lines_joined {ended : List (List Char × List Char)} (cut : Cut ended)
    {keep : List Char → Bool} (silent : keep [] = false) :
    (lines (joined ended)).filter keep = (ended.map Prod.fst).filter keep := by
  induction cut with
  | nil => rfl
  | last filled plain => simp [lines_unbroken filled plain]
  | @pair line rest plain following ih =>
      rw [joined_cons, List.cons_append, List.cons_append, List.nil_append,
        lines_unbroken_of_lines plain (lines.eq_2 _), List.map_cons, List.filter_cons,
        List.filter_cons, ih]
  | @single line rest char plain breaks following ih =>
      rw [joined_cons, List.cons_append, List.nil_append, List.map_cons, List.filter_cons, ← ih]
      by_cases met : char = '\r' ∧ (joined rest).head? = some '\n'
      · -- The return and the feed are one break now: an empty line is lost.
        obtain ⟨rfl, feed⟩ := met
        obtain ⟨later, spelled⟩ := List.head?_eq_some_iff.mp feed
        have empty : lines ('\n' :: later) = [] :: lines later :=
          lines_cons_of_isLineBreak (by decide) (by simp)
        rw [spelled, lines_unbroken_of_lines plain (lines.eq_2 later), empty, List.filter_cons,
          List.filter_cons_of_neg (by simp [silent])]
      · have behind : lines (char :: joined rest) = [] :: lines (joined rest) :=
          lines_cons_of_isLineBreak breaks fun returns feed => met ⟨returns, feed⟩
        rw [lines_unbroken_of_lines plain behind, List.filter_cons]

end Toolpath.Text

namespace Toolpath

open Text

namespace Command

/-- Tells whether a command neither moves, nor sets a mode or a position, nor selects a tool. -/
def isInert (command : Command) : Bool :=
  command.tool.isNone && !command.isMove && !command.isSetting

def essence (commands : List Command) : List Command :=
  (commands.filter (!·.isInert)).map unnumbered

theorem unnumbered_ofLine (line : List Char) (number : Int) :
    (ofLine line number).unnumbered = ofLine line 0 := by
  unfold ofLine
  dsimp only
  split <;> rfl

theorem isInert_unnumbered (command : Command) : command.unnumbered.isInert = command.isInert := rfl

theorem essence_ofText (text : List Char) :
    essence (ofText text) =
      ((lines text).filter fun line => !(ofLine line 0).isInert).map (ofLine · 0) := by
  have numbered (entry : List Char × Nat) : (ofLine entry.1 entry.2).isInert =
      (ofLine entry.1 0).isInert := by
    rw [← isInert_unnumbered, unnumbered_ofLine]
  rw [essence, ofText_eq_ofLine, List.filter_map, List.map_map]
  conv => rhs; rw [← List.zipIdx_map_fst 1 (lines text), List.filter_map, List.map_map]
  simp only [Function.comp_def, numbered, unnumbered_ofLine]

theorem isMove_of_isInert (command : Command) (inert : command.isInert = true) :
    command.isMove = false := by
  simp only [isInert, Bool.and_eq_true, Bool.not_eq_true'] at inert
  exact inert.1.2

theorem countP_isMove_essence (commands : List Command) :
    (essence commands).countP isMove = commands.countP isMove := by
  rw [essence, List.countP_map, List.countP_filter]
  apply List.countP_congr
  intro command _
  have same : command.unnumbered.isMove = command.isMove := rfl
  by_cases linear : command.isMove = true <;> simp [isInert, same, linear]

end Command

namespace State

theorem extruding_step_of_not_isMove (offset : Double) (state : State) (command : Command)
    (still : ¬command.isMove = true) :
    (state.step offset command).extruding = state.extruding := by
  unfold step
  cases action : Action.ofCode command.code with
  | move => exact absurd ((Action.ofCode_eq_move command).mp action) still
  | arc | absolute | relative | reposition | unknown => rfl

theorem step_of_isInert (offset : Double) (state : State) (command : Command)
    (inert : command.isInert = true) : state.step offset command = state := by
  simp only [Command.isInert, Bool.and_eq_true, Option.isNone_iff_eq_none,
    Bool.not_eq_true'] at inert
  obtain ⟨⟨unmarked, still⟩, settled⟩ := inert
  have same : state.marked command = state := by
    rw [marked, unmarked]
    rfl
  unfold step
  cases action : Action.ofCode command.code with
  | arc | unknown => exact same
  | move =>
      rw [(Action.ofCode_eq_move command).mp action] at still
      contradiction
  | absolute | relative | reposition =>
      rw [command.isSetting_iff.mpr (by simp [action])] at settled
      contradiction

end State

namespace Machine

theorem motion_filter_inert (settings : Settings) (commands : List Command)
    {left right : Machine} (state : left.state = right.state) (stack : left.stack = right.stack) :
    (left.run settings commands).state =
        (right.run settings (commands.filter (!·.isInert))).state ∧
      (left.run settings commands).stack =
        (right.run settings (commands.filter (!·.isInert))).stack := by
  induction commands generalizing left right with
  | nil => exact ⟨state, stack⟩
  | cons command rest ih =>
      by_cases inert : command.isInert = true
      · rw [List.filter_cons_of_neg (by simp [inert])]
        apply ih
        · rw [state_step, State.step_of_isInert _ _ _ inert, state]
        · rw [stack_step, command.isMove_of_isInert inert]
          exact stack
      · rw [List.filter_cons_of_pos (by simp [inert])]
        apply ih
        · rw [state_step, state_step, state]
        · rw [stack_step, stack_step, state, stack]

theorem motion_of_essence (settings : Settings) {program other : List Command}
    (same : Command.essence program = Command.essence other) :
    (initial.run settings program).state = (initial.run settings other).state ∧
      (initial.run settings program).stack = (initial.run settings other).stack ∧
      (initial.run settings program).diagnostics.moves =
        (initial.run settings other).diagnostics.moves := by
  have state : initial.state = initial.state := rfl
  have stack : initial.stack = initial.stack := rfl
  have first := motion_filter_inert settings program state stack
  have second := motion_filter_inert settings other state stack
  have alike := motion_run_congr settings same state stack
  refine ⟨?_, ?_, ?_⟩
  · rw [first.1, second.1, alike.1]
  · rw [first.2, second.2, alike.2]
  · have counted := congrArg (List.countP Command.isMove) same
    rw [Command.countP_isMove_essence, Command.countP_isMove_essence] at counted
    rw [account_run, account_run]
    exact counted

end Machine

/-- A command that is no linear move leaves the layers alone, and of the state it changes at most
the tool by its marker, the mode by its code, and the position it sets. All lines without a marker
whose code neither moves nor sets a mode or a position can be taken out of a text: the layers, the
state and the number of moves stay. -/
theorem inert_lines_deleted (settings : Settings) :
    (∀ (machine : Machine) (command : Command), command.isMove = false →
      let next := machine.step settings command
      next.stack = machine.stack ∧ next.state.extruding = machine.state.extruding ∧
        next.state.tool = command.tool.getD machine.state.tool ∧
        next.state.relative = command.mode?.getD machine.state.relative ∧
        ∀ axis, next.state.get axis =
          if command.code = "G92" ∧ axis.isPosition = true then
            (command.value? axis.letter).getD (machine.state.get axis)
          else machine.state.get axis) ∧
    ∀ text : String,
      let ended := endedLines text.toList
      let kept := ended.filter fun (line, _) => !(Command.ofLine line 0).isInert
      let shorter := interpret settings (String.ofList (joined kept))
      let whole := interpret settings text
      (joined ended = text.toList ∧ ended.map Prod.fst = lines text.toList) ∧
        shorter.layers = whole.layers ∧ shorter.state = whole.state ∧
        shorter.diagnostics.moves = whole.diagnostics.moves := by
  refine ⟨?_, ?_⟩
  · intro machine command still next
    have other : ¬command.isMove = true := by simp [still]
    have state : next.state = machine.state.step settings.toolOffset command :=
      Machine.state_step settings machine command
    rw [state]
    refine ⟨?_, State.extruding_step_of_not_isMove _ _ _ other, State.tool_step _ _ _,
      State.relative_step _ _ _, fun axis => State.get_step_of_not_isMove _ axis _ _ other⟩
    simp only [next, Machine.stack_step, still, Bool.false_eq_true, if_false]
  · intro text ended kept shorter whole
    have silent : (!(Command.ofLine [] 0).isInert) = false := by decide +kernel
    have essence : Command.essence (Command.ofText (joined kept)) =
        Command.essence (Command.ofText text.toList) := by
      have cut : Cut kept := (cut_endedLines text.toList).filter _
      rw [Command.essence_ofText, Command.essence_ofText, filter_lines_joined cut silent,
        ← map_fst_endedLines text.toList, List.filter_map, List.filter_map, List.filter_filter]
      simp only [Function.comp_def, Bool.and_self]
      rfl
    have motion := Machine.motion_of_essence settings essence
    have spelled : shorter = Machine.initial.run settings (Command.ofText (joined kept)) := by
      simp only [shorter, interpret, String.toList_ofList]
    rw [spelled]
    exact ⟨⟨joined_endedLines text.toList, map_fst_endedLines text.toList⟩,
      congrArg Stack.layers motion.2.1, motion.1, motion.2.2⟩

theorem inert_lines_deleted_of_arc :
    let text := "G1 X1 E1\r;T1\r\n\nG2 X5 Y\rG92 X7 F2\n \rT1\nM104 S\u2028g1 X30 E2"
    let shorter := "G1 X1 E1\rG92 X7 F2\nT1\ng1 X30 E2"
    let kept := (endedLines text.toList).filter fun (line, _) => !(Command.ofLine line 0).isInert
    let machine := interpret .standard text
    let arc := Command.ofLine "G2 X5 T1".toList 9
    String.ofList (joined kept) = shorter ∧
      (interpret .standard shorter).layers = machine.layers ∧
      arc.isMove = false ∧ (machine.step .standard arc).stack = machine.stack ∧
      (machine.step .standard arc).state.get .x = machine.state.get .x := by
  intro text shorter kept machine arc
  obtain ⟨frame, deleted⟩ := inert_lines_deleted .standard
  have spelled : String.ofList (joined kept) = shorter := by decide +kernel
  have still : arc.isMove = false := by decide +kernel
  obtain ⟨stack, -, -, -, places⟩ := frame machine arc still
  refine ⟨spelled, ?_, still, stack, (places .x).trans (if_neg (by decide +kernel))⟩
  rw [← spelled]
  exact (deleted text).2.1

end Toolpath
