import Toolpath.Proofs.Comments

/-!
A text fed in pieces that are cut behind line feeds. Only the account looks at the numbers of the
lines, and it carries them along (`Diagnostics.ofCommands_renumbered`).
-/

namespace Toolpath

open Text

namespace Command

def renumbered (count : Nat) (command : Command) : Command :=
  { command with line := command.line + count }

theorem ofLine_add (line : List Char) (number : Int) (count : Nat) :
    ofLine line (number + count) = (ofLine line number).renumbered count := by
  unfold ofLine
  dsimp only
  split <;> rfl

theorem ofText_append (before rest : List Char) :
    ofText (before ++ '\n' :: rest) = ofText (before ++ ['\n']) ++
      (ofText rest).map (renumbered (lines (before ++ ['\n'])).length) := by
  have feed : isLineBreak '\n' = true := by decide
  have cut := lines_append_break before rest feed (by decide)
  simp only [ofText, sourceLines, cut, List.map_append, List.zipIdx_append, List.length_map]
  congr 1
  rw [Nat.add_comm, ← List.map_snd_add_zipIdx_eq_zipIdx, List.map_map, List.map_map]
  apply List.map_congr_left
  rintro ⟨line, number⟩ _
  exact ofLine_add line number _

theorem skip?_renumbered (count : Nat) (command : Command) :
    (command.renumbered count).skip? =
      command.skip?.map fun skip => { skip with line := skip.line + count } := by
  have noop : (command.renumbered count).isNoop = command.isNoop := rfl
  have code : (command.renumbered count).code = command.code := rfl
  unfold skip?
  rw [noop, code]
  split
  · rfl
  · split <;> rfl

theorem faults_renumbered (count : Nat) (command : Command) :
    (command.renumbered count).faults =
      command.faults.map fun fault => { fault with line := fault.line + count } := by
  have noop : (command.renumbered count).isNoop = command.isNoop := rfl
  unfold faults
  rw [noop]
  split
  · rfl
  · rw [List.map_map]
    rfl

theorem ofLine_withoutComment (line : List Char) (number : Int) :
    ofLine (withoutComment line) number = ofLine line number := by
  unfold ofLine
  rw [withoutComment_idem]

theorem ofText_eq_ofLine (text : List Char) :
    ofText text = ((lines text).zipIdx 1).map fun (line, number) => ofLine line number := by
  rw [ofText, sourceLines, List.zipIdx_map, List.map_map]
  apply List.map_congr_left
  rintro ⟨line, number⟩ _
  exact ofLine_withoutComment line number

end Command

namespace Diagnostics

def renumbered (count : Nat) (diagnostics : Diagnostics) : Diagnostics :=
  { diagnostics with
    skipped := diagnostics.skipped.map fun skip => { skip with line := skip.line + count }
    malformed := diagnostics.malformed.map fun fault => { fault with line := fault.line + count } }

theorem ofCommands_renumbered (count : Nat) (commands : List Command) :
    ofCommands (commands.map (Command.renumbered count)) =
      (ofCommands commands).renumbered count := by
  have moves : Command.isMove ∘ Command.renumbered count = Command.isMove := rfl
  simp only [ofCommands, renumbered, List.length_map, List.countP_map, moves, List.filterMap_map,
    List.flatMap_map, List.map_toArray, List.map_filterMap, List.map_flatMap, Function.comp_def,
    Command.skip?_renumbered, Command.faults_renumbered]

end Diagnostics

namespace Machine

theorem motion_run (settings : Settings) (count : Nat) (commands : List Command)
    {left right : Machine}
    (state : left.state = right.state) (stack : left.stack = right.stack) :
    (left.run settings commands).state =
        (right.run settings (commands.map (Command.renumbered count))).state ∧
      (left.run settings commands).stack =
        (right.run settings (commands.map (Command.renumbered count))).stack := by
  refine motion_run_congr settings ?_ state stack
  rw [List.map_map]
  rfl

end Machine

/-- A text may be fed in two pieces: cut behind a line feed, they leave the layers and the state of
the whole, and an account that differs only in that the second piece counts its lines from one. Nor
does it matter whether comments are cut off before a line is read. -/
theorem interpret_pieces (settings : Settings) :
    (∀ first second : String, first = "" ∨ first.toList.getLast? = some '\n' →
      let pieces := (interpret settings first).run settings (Command.ofText second.toList)
      let whole := interpret settings (first ++ second)
      let before := (interpret settings first).diagnostics
      let after := (interpret settings second).diagnostics
      pieces.layers = whole.layers ∧ pieces.state = whole.state ∧
        pieces.diagnostics = before ++ after ∧
        whole.diagnostics = before ++ after.renumbered (lines first.toList).length) ∧
    ∀ text : String,
      Machine.initial.run settings
        (((lines text.toList).zipIdx 1).map fun (line, number) => Command.ofLine line number) =
      interpret settings text := by
  refine ⟨?_, ?_⟩
  · intro first second ended pieces whole before after
    have cut : Command.ofText (first ++ second).toList = Command.ofText first.toList ++
        (Command.ofText second.toList).map (Command.renumbered (lines first.toList).length) := by
      rw [String.toList_append]
      rcases ended with rfl | feed
      · simp [Command.ofText, Command.sourceLines, lines, Command.renumbered]
      · obtain ⟨start, spelled⟩ := List.getLast?_eq_some_iff.mp feed
        rw [spelled, List.append_assoc, List.singleton_append, Command.ofText_append]
    have joined : whole = (interpret settings first).run settings
        ((Command.ofText second.toList).map (Command.renumbered (lines first.toList).length)) := by
      simp only [whole]
      rw [interpret, cut, Machine.run_append, ← interpret]
    have motion : pieces.state = whole.state ∧ pieces.stack = whole.stack := by
      rw [joined]
      exact Machine.motion_run settings _ _ rfl rfl
    have account (text : String) :
        (interpret settings text).diagnostics = .ofCommands (Command.ofText text.toList) :=
      Machine.account_run settings (Command.ofText text.toList)
    refine ⟨congrArg Stack.layers motion.2, motion.1, ?_, ?_⟩
    · simp only [pieces, before, after]
      rw [account, account, ← Diagnostics.ofCommands_append, ← Machine.account_run settings,
        Machine.run_append, ← interpret]
    · simp only [whole, before, after]
      rw [account, account, account, cut, Diagnostics.ofCommands_append,
        Diagnostics.ofCommands_renumbered]
  · intro text
    rw [interpret, Command.ofText_eq_ofLine]

theorem interpret_pieces_of_arc :
    let first := "G1 X1 E1\r\nM104 S\n"
    let second := "\r\nG2 X ;\u2028G1 Y2 E2 T1\n"
    let pieces := (interpret .standard first).run .standard (Command.ofText second.toList)
    let whole := interpret .standard (first ++ second)
    first.toList.getLast? = some '\n' ∧ pieces.layers = whole.layers ∧
      pieces.diagnostics.unsupported = [⟨.arc, 2, "G2"⟩] ∧
      whole.diagnostics.unsupported = [⟨.arc, 4, "G2"⟩] := by
  intro first second pieces whole
  have feed : first.toList.getLast? = some '\n' := by decide +kernel
  obtain ⟨layers, _, counted, renumbered⟩ :=
    (interpret_pieces .standard).1 first second (.inr feed)
  refine ⟨feed, layers, ?_, ?_⟩
  · exact (congrArg Diagnostics.unsupported counted).trans (by decide +kernel)
  · exact (congrArg Diagnostics.unsupported renumbered).trans (by decide +kernel)

end Toolpath
