import Toolpath.Proofs.Balance
import Toolpath.Proofs.Independence
import Toolpath.Proofs.Tokens

/-! A tool marker among the words of a linear move. Behind the code it changes nothing but the tool
(`Command.agree_marked`); in front it is taken for the code. -/

namespace Toolpath

open Text

theorem State.Agree.eq {left right : State} (agree : left.Agree Axis.all right) : left = right := by
  obtain ⟨axes, extruding, relative, tool⟩ := left
  have same := PerAxis.eq_of_get fun axis => agree.places axis axis.mem_all
  have fed := agree.extruding (by decide)
  obtain ⟨relative, tool, -, -⟩ := agree
  simp_all

namespace Machine

variable (settings : Settings) (machine : Machine) {command other : Command}

/-- The tool of a line may as well be selected before it. -/
theorem step_of_tool {tool : Int} (marker : command.tool = some tool) :
    machine.step settings command =
      (machine.selectTool tool).step settings { command with tool := none } := by
  simp only [step, marked, marker]
  rfl

theorem motion_step_congr (agree : command.Agree Axis.all other) :
    (machine.step settings command).state = (machine.step settings other).state ∧
      (machine.step settings command).stack = (machine.step settings other).stack := by
  have alike : machine.state.Agree Axis.all machine.state :=
    ⟨rfl, rfl, fun _ _ => rfl, fun _ => rfl⟩
  have marked := (alike.marked agree).eq
  have moved : State.Agree Axis.all
      ((machine.state.marked command).moved settings.toolOffset command)
      ((machine.state.marked other).moved settings.toolOffset other) :=
    (alike.marked agree).moved agree fun _ => rfl
  have stepped : State.Agree Axis.all (machine.state.step settings.toolOffset command)
      (machine.state.step settings.toolOffset other) := alike.step agree fun _ => rfl
  refine ⟨?_, ?_⟩
  · rw [state_step, state_step, stepped.eq]
  · have reached := moved.eq
    rw [marked] at reached
    rw [stack_step, stack_step, agree.isMove, marked]
    simp only [segment, reached]

theorem count_step (linear : command.isMove = true) :
    (machine.step settings command).stack.count = machine.stack.count + 1 := by
  rw [stack_step, if_pos linear]
  dsimp only
  rw [add_segment_eq_record, Stack.count_record]

end Machine

namespace Command

def toolWords : List (List Char × Int) := [("T0".toList, 0), ("T1".toList, 1)]

def Toolless (text : List Char) : Prop := ∀ entry ∈ toolWords, ¬entry.1 <:+: text

instance (text : List Char) : Decidable (Toolless text) :=
  inferInstanceAs (Decidable (∀ entry ∈ toolWords, ¬entry.1 <:+: text))

variable {before behind : List (List Char)} {line : List Char}

theorem toolless_iff (text : List Char) : Toolless text ↔ ∀ word ∈ words text, Toolless word := by
  have apart (digit : Char) (solid : isBlank digit = false) :
      ¬['T', digit] <:+: text ↔ ∀ word ∈ words text, ¬['T', digit] <:+: word := by
    simp only [← mentionsTool_iff, mentionsTool_eq_any solid text, List.any_eq_true]
    simp
  have zero := apart '0' (by decide)
  have one := apart '1' (by decide)
  have markers : "T0".toList = ['T', '0'] ∧ "T1".toList = ['T', '1'] := by decide
  simp only [Toolless, toolWords, List.forall_mem_cons, List.not_mem_nil, markers, zero, one]
  grind

theorem tool_ofLine (line : List Char) (number : Int) :
    (ofLine line number).tool = toolMarker? (withoutComment line) := by
  unfold ofLine
  dsimp only
  split <;> rfl

theorem tool_ofLine_of_toolless (toolless : ∀ word ∈ words (withoutComment line), Toolless word)
    (number : Int) : (ofLine line number).tool = none := by
  rw [tool_ofLine, toolMarker?_eq, if_neg, if_neg]
  · rintro ⟨word, member, marker⟩
    exact toolless word member ("T1".toList, 1) (by decide) marker
  · rintro ⟨word, member, marker⟩
    exact toolless word member ("T0".toList, 0) (by decide) marker

theorem tool_ofLine_of_marker {marker : List Char} {tool : Int} (known : (marker, tool) ∈ toolWords)
    (toolless : ∀ word ∈ before ++ behind, Toolless word)
    (written : Writes (before ++ marker :: behind) line) (number : Int) :
    (ofLine line number).tool = some tool := by
  have mentioned {word : List Char} {other : Int} (listed : (word, other) ∈ toolWords) :
      (∃ token ∈ before ++ marker :: behind, word <:+: token) ↔ word <:+: marker := by
    have absent : ∀ token ∈ before ++ behind, ¬word <:+: token :=
      fun token member => toolless token member (word, other) listed
    simp only [List.mem_append, List.mem_cons] at absent ⊢
    grind
  have table : ∀ entry ∈ toolWords, (if "T0".toList <:+: entry.1 then some (0 : Int)
      else if "T1".toList <:+: entry.1 then some 1 else none) = some entry.2 := by decide
  rw [tool_ofLine, toolMarker?_eq, writes_iff.mp written,
    if_congr (mentioned (by decide : ("T0".toList, 0) ∈ toolWords)) rfl rfl,
    if_congr (mentioned (by decide : ("T1".toList, 1) ∈ toolWords)) rfl rfl]
  exact table (marker, tool) known

theorem lookup_ofWords_of_marker {marker : List Char} {tool : Int}
    (known : (marker, tool) ∈ toolWords) (axis : Axis) :
    (Params.ofWords (before ++ marker :: behind)).lookup axis.letter =
      (Params.ofWords (before ++ behind)).lookup axis.letter := by
  have table : ∀ entry ∈ toolWords, ∀ axis ∈ Axis.all,
      Params.key? entry.1 ≠ some axis.letter := by decide +kernel
  have keyed := table (marker, tool) known axis axis.mem_all
  simp [Params.lookup_ofWords, keyed]

theorem agree_marked {code marker marked : List Char} {tool : Int}
    (known : (marker, tool) ∈ toolWords)
    (toolless : ∀ word ∈ code :: before ++ behind, Toolless word)
    (plain : Writes (code :: before ++ behind) line)
    (inserted : Writes (code :: before ++ marker :: behind) marked) (number other : Int) :
    Command.Agree Axis.all { ofLine marked number with tool := none } (ofLine line other) := by
  have read := writes_iff.mp plain
  have unmarked := tool_ofLine_of_toolless (read.symm ▸ toolless) other
  refine ⟨?_, unmarked.symm, fun axis _ => ?_⟩
  · rw [ofLine_of_cons number (writes_iff.mp inserted), ofLine_of_cons other read]
  · rw [ofLine_of_cons number (writes_iff.mp inserted), ofLine_of_cons other read]
    exact congrArg (Option.map Param.value) (lookup_ofWords_of_marker known axis)

theorem isMove_of_marker {marker : List Char} {tool : Int} (known : (marker, tool) ∈ toolWords)
    (written : Writes (marker :: behind) line) (number : Int) :
    (ofLine line number).isMove = false := by
  have table : ∀ entry ∈ toolWords, String.ofList (upper entry.1) ≠ "G0" ∧
      String.ofList (upper entry.1) ≠ "G1" := by decide +kernel
  rw [ofLine_of_cons number (writes_iff.mp written)]
  simpa [isMove] using table (marker, tool) known

theorem isMove_of_upper {code : List Char} {rest : List (List Char)}
    (linear : upper code ∈ ["G0".toList, "G1".toList]) (written : Writes (code :: rest) line)
    (number : Int) : (ofLine line number).isMove = true := by
  rw [ofLine_of_cons number (writes_iff.mp written)]
  simp only [List.mem_cons, List.not_mem_nil, or_false] at linear
  rcases linear with same | same <;> simp [isMove, same]

end Command

/-- A tool marker among the words of a linear move has the same effect on the layers and the state
as selecting the tool before the move, exactly when it does not stand in front of all other words:
there it is taken for the code, and no move is made. -/
theorem marked_move_iff (settings : Settings) (machine : Machine)
    {before behind : List (List Char)} {line marked marker : List Char} {tool : Int}
    (known : (marker, tool) ∈ Command.toolWords)
    (plain : Writes (before ++ behind) line)
    (toolless : Command.Toolless (Command.withoutComment line))
    (linear : ∃ code ∈ (before ++ behind).head?, upper code ∈ ["G0".toList, "G1".toList])
    (inserted : Writes (before ++ marker :: behind) marked) (number other : Int) :
    let direct := machine.step settings (.ofLine marked number)
    let selected := (machine.selectTool tool).step settings (.ofLine line other)
    direct.layers = selected.layers ∧ direct.state = selected.state ↔ before ≠ [] := by
  intro direct selected
  have read := Command.writes_iff.mp plain
  rw [Command.toolless_iff, read] at toolless
  have tooled := Command.tool_ofLine_of_marker known toolless inserted number
  cases before with
  | nil =>
      refine iff_of_false (fun same => ?_) (by simp)
      obtain ⟨code, first, linear⟩ := linear
      obtain ⟨rest, rfl⟩ := List.head?_eq_some_iff.mp first
      have kept : direct.stack = machine.stack := by
        simp [direct, Machine.stack_step, Command.isMove_of_marker known inserted number]
      have grown : selected.stack.count = machine.stack.count + 1 :=
        Machine.count_step settings _ (Command.isMove_of_upper linear plain other)
      have counts : direct.stack.count = selected.stack.count := by
        rw [Stack.count, Stack.count]
        exact congrArg (fun layers => (layers.map Layer.count).sum) same.1
      rw [kept, grown] at counts
      omega
  | cons code before =>
      have agree := Command.agree_marked known toolless plain inserted number other
      have motion := Machine.motion_step_congr settings (machine.selectTool tool) agree
      rw [← Machine.step_of_tool settings machine tooled] at motion
      refine iff_of_true ⟨?_, motion.1⟩ (by simp)
      exact congrArg Stack.layers motion.2

theorem marked_move_of_middle :
    let line := "g1 X10 E1".toList
    let marked := "g1 T1\tX10 E1".toList
    let machine := Machine.initial
    let direct := machine.step .standard (.ofLine marked 1)
    let selected := (machine.selectTool 1).step .standard (.ofLine line 2)
    Writes ["g1".toList, "X10".toList, "E1".toList] line ∧
      Writes ["g1".toList, "T1".toList, "X10".toList, "E1".toList] marked ∧
      Command.Toolless (Command.withoutComment line) ∧
      direct.layers = selected.layers ∧ direct.state = selected.state := by
  intro line marked machine direct selected
  have plain : Writes (["g1".toList] ++ ["X10".toList, "E1".toList]) line := by decide +kernel
  have inserted : Writes (["g1".toList] ++ "T1".toList :: ["X10".toList, "E1".toList]) marked := by
    decide +kernel
  have toolless : Command.Toolless (Command.withoutComment line) := by decide +kernel
  have same := (marked_move_iff .standard machine (by decide : ("T1".toList, 1) ∈ Command.toolWords)
    plain toolless ⟨"g1".toList, rfl, by decide +kernel⟩ inserted 1 2).mpr (by decide)
  exact ⟨plain, inserted, toolless, same⟩

/-- A marker in front of a move leaves the machine where it is, and no segment is recorded. -/
theorem marked_move_of_front :
    let line := "G1 X10 E1".toList
    let marked := "T1 G1 X10 E1".toList
    let direct := Machine.initial.step .standard (.ofLine marked 1)
    let selected := (Machine.initial.selectTool 1).step .standard (.ofLine line 1)
    Writes ["G1".toList, "X10".toList, "E1".toList] line ∧
      Writes ["T1".toList, "G1".toList, "X10".toList, "E1".toList] marked ∧
      Command.Toolless line ∧ ';' ∉ line ∧
      direct.layers = [] ∧ selected.layers.map Layer.count = [1] ∧
      direct.state ≠ selected.state := by
  decide +kernel

end Toolpath
