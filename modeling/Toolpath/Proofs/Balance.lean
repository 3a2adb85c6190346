import Toolpath.Proofs.Comments
import Toolpath.Proofs.Layering
import Toolpath.Proofs.Parameters

/-! Every line of a text has one place in the account: it moves, is left aside, changes how the next
ones are read, or says nothing (`Command.length_eq_shares`). -/

namespace Toolpath

open Text

namespace Command

def isSetting (command : Command) : Bool :=
  command.code = "G90" || command.code = "G91" || command.code = "G92"

theorem isSetting_iff (command : Command) : command.isSetting = true ↔
    Action.ofCode command.code = .absolute ∨ Action.ofCode command.code = .relative ∨
      Action.ofCode command.code = .reposition := by
  rw [Action.ofCode_eq_absolute, Action.ofCode_eq_relative, Action.ofCode_eq_reposition]
  simp [isSetting, or_assoc]

theorem one_eq_shares (command : Command) :
    1 = (if command.isMove then 1 else 0) +
      (command.skip?.toList.filter (·.reason = .arc)).length +
      (command.skip?.toList.filter (·.reason = .unknown)).length +
      (if command.isSetting then 1 else 0) + (if command.isNoop then 1 else 0) := by
  have moves := Action.ofCode_eq_move command
  have settings := command.isSetting_iff
  by_cases noop : command.isNoop = true
  · have still := command.isMove_of_isNoop noop
    rw [Action.ofCode_of_isNoop command noop] at settings
    simp_all [skip?]
  · cases action : Action.ofCode command.code <;> simp_all [skip?]

theorem length_eq_shares (commands : List Command) :
    commands.length = commands.countP isMove +
      ((commands.filterMap skip?).filter (·.reason = .arc)).length +
      ((commands.filterMap skip?).filter (·.reason = .unknown)).length +
      commands.countP isSetting + commands.countP isNoop := by
  induction commands with
  | nil => rfl
  | cons command rest ih =>
      have share := command.one_eq_shares
      have front : (command :: rest).filterMap skip? =
          command.skip?.toList ++ rest.filterMap skip? := by
        cases skipped : command.skip? <;> simp [skipped]
      rw [front, List.length_cons, List.countP_cons, List.countP_cons, List.countP_cons,
        List.filter_append, List.filter_append, List.length_append, List.length_append]
      omega

@[simp] theorem line_ofLine (line : List Char) (number : Int) :
    (ofLine line number).line = number := by
  unfold ofLine
  dsimp only
  split <;> rfl

theorem map_line_ofText (text : List Char) :
    (ofText text).map Command.line = (List.range' 1 (lines text).length).map Int.ofNat := by
  have numbers := List.zipIdx_map_snd 1 (sourceLines text)
  rw [sourceLines, List.length_map] at numbers
  rw [ofText, List.map_map, ← numbers, List.map_map, sourceLines]
  apply List.map_congr_left
  rintro ⟨line, number⟩ _
  simp

theorem line_of_skip? {command : Command} {skip : Skip} (skipped : command.skip? = some skip) :
    skip.line = command.line := by
  unfold skip? at skipped
  split at skipped
  · contradiction
  · split at skipped
    · exact (Option.some.inj skipped) ▸ rfl
    · exact (Option.some.inj skipped) ▸ rfl
    · contradiction

theorem sublist_line_skip? (commands : List Command) :
    ((commands.filterMap skip?).map Skip.line).Sublist (commands.map Command.line) := by
  induction commands with
  | nil => exact .slnil
  | cons command rest ih =>
      rw [List.map_cons]
      cases skipped : command.skip? with
      | none =>
          rw [List.filterMap_cons_none skipped]
          exact .cons _ ih
      | some skip =>
          rw [List.filterMap_cons_some skipped, List.map_cons, line_of_skip? skipped]
          exact .cons_cons _ ih

/-- The parameters without a number that the words of a line give: the keys in the order of their
first words, as far as the last word under a key has no number behind it. -/
def numberless (number : Int) (line : List Char) : List Malformed :=
  let params := (words line).tail
  let numbered (key : String) :=
    (Numeral.leading? ((Params.lastText params key).dropWhile isBlank)).isSome
  ((Params.keys params).filter (!numbered ·)).map fun key =>
    ⟨number, key, String.ofList (Params.lastText params key)⟩

theorem faults_ofLine (line : List Char) (number : Int) :
    (ofLine line number).faults = numberless number (withoutComment line) := by
  unfold faults numberless
  cases found : words (withoutComment line) with
  | nil =>
      rw [if_pos ((isNoop_ofLine_iff line number).mpr found)]
      rfl
  | cons code rest =>
      have named : ¬(ofLine line number).isNoop = true := by
        simp [isNoop_ofLine_iff, found]
      rw [if_neg named, malformed, ofLine_of_cons number found, Params.ofWords_eq,
        List.filter_map, List.map_map, List.tail_cons]
      have valid (text : List Char) : (Param.parse text).valid =
          (Numeral.leading? (text.dropWhile isBlank)).isSome := by
        unfold Param.parse
        split <;> simp_all
      have raw (text : List Char) : (Param.parse text).raw = String.ofList text := by
        unfold Param.parse
        split <;> rfl
      simp only [Function.comp_def, valid, raw]

theorem withoutComment_of_mem_sourceLines {text line : List Char}
    (source : line ∈ sourceLines text) : withoutComment line = line := by
  rw [sourceLines, List.mem_map] at source
  obtain ⟨whole, _, rfl⟩ := source
  exact withoutComment_idem whole

theorem flatMap_faults_ofText (text : List Char) :
    (ofText text).flatMap faults =
      ((sourceLines text).zipIdx 1).flatMap fun (line, number) => numberless number line := by
  rw [ofText, List.flatMap_map]
  apply List.flatMap_congr
  rintro ⟨line, number⟩ listed
  rw [faults_ofLine, withoutComment_of_mem_sourceLines (List.fst_mem_of_mem_zipIdx listed)]

theorem countP_isNoop_ofText (text : List Char) :
    (ofText text).countP isNoop = (sourceLines text).countP (words · = []) := by
  conv => rhs; rw [← List.zipIdx_map_fst 1 (sourceLines text)]
  rw [ofText, List.countP_map, List.countP_map]
  apply List.countP_congr
  rintro ⟨line, number⟩ listed
  simp only [Function.comp_apply, decide_eq_true_eq]
  rw [isNoop_ofLine_iff, withoutComment_of_mem_sourceLines (List.fst_mem_of_mem_zipIdx listed)]

theorem nodup_numberless (number : Int) (line : List Char) :
    ((numberless number line).map fun fault => (fault.line, fault.key)).Nodup := by
  rw [numberless, List.map_map]
  have distinct : (Params.keys (words line).tail).Nodup := nodup_eraseDups _
  refine (distinct.filter _).map ?_
  intro left right same
  exact (Prod.mk.inj same).2

theorem line_of_mem_numberless {number : Int} {line : List Char} {fault : Malformed}
    (member : fault ∈ numberless number line) : fault.line = number := by
  rw [numberless, List.mem_map] at member
  obtain ⟨key, _, rfl⟩ := member
  rfl

end Command

namespace Stack

def count (stack : Stack) : Nat := (stack.layers.map Layer.count).sum

theorem count_startLayer (stack : Stack) (z : Double) :
    (stack.startLayer z).count = stack.count := by
  simp [count, layers, startLayer]

theorem count_fill {stack : Stack} (opened : stack.current.isSome = true) (segment : Segment) :
    (stack.fill segment).count = stack.count + 1 := by
  obtain ⟨place, current⟩ := Option.isSome_iff_exists.mp opened
  have within : place < stack.layers.length := stack.current_lt place current
  have filled : (stack.fill segment).layers = stack.layers.modify place (·.add segment) := by
    simp [fill, current, layers]
  have whole := List.take_append_drop place stack.layers
  rw [List.drop_eq_getElem_cons within] at whole
  rw [count, filled, List.modify_eq_take_cons_drop within, count]
  conv => rhs; rw [← whole]
  simp only [List.map_append, List.map_cons, List.sum_append, List.sum_cons, Layer.count_add]
  omega

theorem count_add (stack : Stack) (segment : Segment) :
    (stack.add segment).count = stack.count + 1 := by
  unfold add
  split
  · rw [count_fill rfl, count_startLayer]
  · rename_i opened
    exact count_fill (by simpa [Option.isSome_iff_ne_none] using opened) segment

theorem count_record (settings : Settings) (stack : Stack) (move : Move) :
    (stack.record settings move).count = stack.count + 1 := by
  unfold record
  dsimp only
  rw [count_add]
  split
  · rw [count_startLayer]
  · rfl

theorem count_foldl_record (settings : Settings) (moves : List Move) (stack : Stack) :
    (moves.foldl (record settings) stack).count = stack.count + moves.length := by
  induction moves generalizing stack with
  | nil => rfl
  | cons move rest ih =>
      rw [List.foldl_cons, ih, count_record, List.length_cons]
      omega

theorem count_run (settings : Settings) (commands : List Command) :
    (Machine.initial.run settings commands).stack.count = commands.countP Command.isMove := by
  rw [Machine.stack_run, count_foldl_record, length_moves]
  exact Nat.zero_add _

end Stack

namespace Diagnostics

theorem increasing_skipped (text : List Char) :
    ((ofCommands (Command.ofText text)).skipped.toList.map Skip.line).Pairwise (· < ·) := by
  refine List.Pairwise.sublist (Command.sublist_line_skip? (Command.ofText text)) ?_
  rw [Command.map_line_ofText, List.pairwise_map]
  refine (List.pairwise_lt_range' 1).imp ?_
  intro earlier later order
  exact Int.ofNat_lt.mpr order

theorem line_mem_skipped {text : List Char} {line : Int}
    (member : line ∈ (ofCommands (Command.ofText text)).skipped.toList.map Skip.line) :
    1 ≤ line ∧ line ≤ (Text.lines text).length := by
  have numbered := (Command.sublist_line_skip? (Command.ofText text)).subset member
  rw [Command.map_line_ofText, List.mem_map] at numbered
  obtain ⟨number, within, rfl⟩ := numbered
  rw [List.mem_range'_1] at within
  simp only [Int.ofNat_eq_natCast]
  omega

theorem nodup_malformed (text : List Char) :
    ((ofCommands (Command.ofText text)).malformed.toList.map fun fault =>
      (fault.line, fault.key)).Nodup := by
  rw [ofCommands, List.toList_toArray, Command.flatMap_faults_ofText, List.map_flatMap,
    List.nodup_flatMap]
  refine ⟨fun entry _ => Command.nodup_numberless entry.2 entry.1, ?_⟩
  have numbers : ((Command.sourceLines text).zipIdx 1).Pairwise fun left right =>
      left.2 < right.2 := by
    rw [← List.pairwise_map, List.zipIdx_map_snd]
    exact List.pairwise_lt_range' 1
  refine numbers.imp ?_
  intro left right order
  change List.Disjoint _ _
  rw [List.disjoint_iff_ne]
  intro first fromLeft second fromRight same
  obtain ⟨fault, listed, rfl⟩ := List.mem_map.mp fromLeft
  obtain ⟨other, alsoListed, rfl⟩ := List.mem_map.mp fromRight
  have line := (Prod.mk.inj same).1
  rw [Command.line_of_mem_numberless listed, Command.line_of_mem_numberless alsoListed] at line
  omega

end Diagnostics

/-- The account of a text balances: each line is a move, left aside, a setting or without words.
What is left aside stands by rising line numbers, no line twice, and the malformed parameters are,
line by line, those that the words give without a number. -/
theorem lines_balance (settings : Settings) (text : String) :
    let machine := interpret settings text
    let account := machine.diagnostics
    let commands := Command.ofText text.toList
    let sources := Command.sourceLines text.toList
    let unsupported := account.unsupported.map Skip.line
    let ignored := account.ignored.map Skip.line
    (account.lines = sources.length ∧
      account.moves = (machine.layers.map Layer.count).sum ∧
      account.moves = commands.countP Command.isMove) ∧
    account.moves + account.unsupported.length + account.ignored.length +
      commands.countP Command.isSetting + sources.countP (words · = []) = account.lines ∧
    (unsupported.Pairwise (· < ·) ∧ ignored.Pairwise (· < ·) ∧ unsupported.Disjoint ignored ∧
      ∀ line ∈ unsupported ++ ignored, 1 ≤ line ∧ line ≤ account.lines) ∧
    account.malformed.toList =
      (sources.zipIdx 1).flatMap (fun (line, number) => Command.numberless number line) ∧
    (account.malformed.toList.map fun fault => (fault.line, fault.key)).Nodup := by
  intro machine account commands sources unsupported ignored
  have read : account = .ofCommands commands := Machine.account_run settings commands
  have increasing : (account.skipped.toList.map Skip.line).Pairwise (· < ·) := by
    rw [read]
    exact Diagnostics.increasing_skipped text.toList
  have listed (reason : SkipReason) :
      ((account.skipped.toList.filter (·.reason = reason)).map Skip.line).Sublist
        (account.skipped.toList.map Skip.line) :=
    List.filter_sublist.map Skip.line
  have counted : account.lines = (lines text.toList).length := lines_interpret settings text
  refine ⟨⟨?_, ?_, ?_⟩, ?_, ⟨?_, ?_, ?_, ?_⟩, ?_, ?_⟩
  · rw [counted]
    exact (List.length_map _).symm
  · have segments := Stack.count_run settings commands
    rw [read]
    exact segments.symm
  · rw [read]
    rfl
  · have shares := Command.length_eq_shares commands
    rw [read, ← Command.countP_isNoop_ofText]
    exact shares.symm
  · exact increasing.sublist (listed .arc)
  · exact increasing.sublist (listed .unknown)
  · rw [List.disjoint_iff_ne]
    intro line arcs other unknowns same
    obtain ⟨skip, arc, rfl⟩ := List.mem_map.mp arcs
    obtain ⟨twin, unknown, rfl⟩ := List.mem_map.mp unknowns
    simp only [Diagnostics.unsupported, Diagnostics.ignored, List.mem_filter,
      decide_eq_true_eq] at arc unknown
    have distinct : (account.skipped.toList.map Skip.line).Nodup :=
      increasing.imp fun order => Int.ne_of_lt order
    have identical := List.inj_on_of_nodup_map distinct arc.1 unknown.1 same
    rw [identical, unknown.2] at arc
    exact absurd arc.2 (by decide)
  · intro line member
    have skipped : line ∈ account.skipped.toList.map Skip.line := by
      rcases List.mem_append.mp member with arc | unknown
      · exact (listed .arc).subset arc
      · exact (listed .unknown).subset unknown
    rw [read] at skipped
    rw [counted]
    exact Diagnostics.line_mem_skipped skipped
  · rw [read]
    exact Command.flatMap_faults_ofText text.toList
  · rw [read]
    exact Diagnostics.nodup_malformed text.toList

theorem lines_balance_of_arc :
    let text := "G2 Xa\n\nM104 Xa S Sb\ng1 xq x1 y\nG92 E0\n"
    let account := (interpret .standard text).diagnostics
    3 ∈ account.unsupported.map Skip.line ++ account.ignored.map Skip.line ∧
      3 ≤ account.lines ∧ account.malformed.toList =
        [⟨1, "x", "a"⟩, ⟨3, "x", "a"⟩, ⟨3, "s", "b"⟩, ⟨4, "y", ""⟩] := by
  intro text account
  obtain ⟨_, _, ⟨_, _, _, within⟩, malformed, _⟩ := lines_balance .standard text
  have third : 3 ∈ account.unsupported.map Skip.line ++ account.ignored.map Skip.line := by
    decide +kernel
  have bounds := within 3 third
  exact ⟨third, Int.ofNat_le.mp bounds.2, malformed.trans (by decide +kernel)⟩

end Toolpath
