import Mathlib.Data.List.Infix
import Toolpath.Proofs.Layering
import Toolpath.Proofs.Parameters
import Toolpath.Proofs.Placement

/-! How far a malformed number spreads: adding something finite neither makes an undefined value nor
repairs it (`Binary.isNaN_add`), so no axis reaches another. -/

namespace Toolpath

open Text

namespace Binary

variable {format : Format}

theorem isNaN_of_isFinite {number : Binary format} (finite : number.isFinite = true) :
    number.isNaN = false := by
  cases number with
  | nan => contradiction
  | infinite => rfl
  | finite => rfl

theorem isNaN_round (negative : Bool) (numerator denominator : Nat) :
    (round negative numerator denominator : Binary format).isNaN = false := by
  unfold round
  split <;> rfl

theorem isNaN_ofDecimal (decimal : Decimal) :
    (ofDecimal decimal : Binary format).isNaN = false := by
  unfold ofDecimal
  split
  · rfl
  · split
    · rfl
    · split
      · rfl
      · exact isNaN_round _ _ _

theorem isNaN_add {left right : Binary format} (finite : right.isFinite = true) :
    (left + right).isNaN = left.isNaN := by
  change (left.add right).isNaN = left.isNaN
  cases right with
  | nan => contradiction
  | infinite => contradiction
  | finite other more =>
      cases left with
      | nan => rfl
      | infinite => rfl
      | finite =>
          simp only [add]
          split
          · rfl
          · exact isNaN_round _ _ _

theorem isNaN_sub {left right : Binary format} (finite : right.isFinite = true) :
    (left - right).isNaN = left.isNaN := by
  have opposite : (-right).isFinite = true := by
    cases right with
    | nan => contradiction
    | infinite => contradiction
    | finite => rfl
  exact isNaN_add opposite

end Binary

theorem Numeral.isNaN_value_of_leading? {text rest : List Char} {numeral : Numeral}
    (found : leading? text = some (numeral, rest)) : (numeral.value : Double).isNaN = false := by
  unfold leading? at found
  dsimp only at found
  split at found
  · cases found
    rfl
  · unfold takeDecimal? at found
    split at found
    · cases found
      exact Binary.isNaN_ofDecimal _
    · contradiction

theorem Param.isNaN_parse (text : List Char) :
    (parse text).value.isNaN = !(parse text).valid := by
  unfold parse
  split
  · rename_i found
    exact Numeral.isNaN_value_of_leading? found
  · rfl

namespace Command

/-- The parameter that a command writes to an axis. A linear move writes all axes, and setting the
position all but the feed rate. -/
def written? (axis : Axis) (command : Command) : Option Param :=
  if command.isMove || (command.code = "G92" && axis.isPosition) then
    command.params.lookup axis.letter
  else none

theorem isNaN_value_of_mem_ofText {text : List Char} {command : Command} {key : String}
    {param : Param} (source : command ∈ ofText text)
    (found : command.params.lookup key = some param) : param.value.isNaN = !param.valid := by
  rw [ofText, List.mem_map] at source
  obtain ⟨⟨line, number⟩, -, rfl⟩ := source
  dsimp only at found
  cases read : words (withoutComment line) with
  | nil => simp [ofLine_of_nil _ read] at found
  | cons code rest =>
      rw [ofLine_of_cons _ read, Params.lookup_ofWords] at found
      obtain ⟨word, -, rfl⟩ := Option.map_eq_some_iff.mp found
      exact Param.isNaN_parse word.tail

theorem lastMode_of_absolute {commands : List Command}
    (absolute : ∀ command ∈ commands, command.code ≠ "G91") : lastMode commands = false := by
  induction commands using List.reverseRecOn with
  | nil => rfl
  | append_singleton before command ih =>
      rw [List.forall_mem_append, List.forall_mem_singleton] at absolute
      rw [lastMode_concat, ih absolute.1, mode?, if_neg absolute.2]
      split <;> rfl

end Command

namespace Write

def amount : Write → Double
  | set value => value
  | advance amount => amount

theorem ofLine?_eq (offset : Double) (axis : Axis) (before : List Command) (command : Command) :
    ofLine? offset axis before command = (command.written? axis).map fun param =>
      let second := Command.lastTool (before ++ [command]) = 1
      let argument :=
        if command.isMove = true ∧ axis = .x ∧ second then param.value - offset else param.value
      if command.isMove = true ∧ Command.lastMode before = true then .advance argument
      else .set argument := by
  unfold ofLine? Command.written? Command.value?
  cases command.params.lookup axis.letter with
  | none => simp
  | some param =>
      by_cases linear : command.isMove = true
      · simp [linear]
      · by_cases placed : command.code = "G92" ∧ axis.isPosition = true <;> simp [linear, placed]

theorem isNaN_onto (place : Double) (write : Option Write)
    (finite : ∀ amount, write = some (advance amount) → amount.isFinite = true) :
    (onto place write).isNaN = ((write.bind set?).getD place).isNaN := by
  cases write with
  | none => rfl
  | some write =>
      cases write with
      | set value => rfl
      | advance amount => exact Binary.isNaN_add (finite amount rfl)

end Write

/-- Every argument that a program writes to an axis is a finite number. Along X this holds also of
what the offset leaves of an argument for the second tool. -/
structure Sound (offset : Double) (axis : Axis) (commands : List Command) : Prop where
  given : ∀ command ∈ commands, ∀ param ∈ command.written? axis,
    param.valid = true ∧ param.value.isFinite = true
  reduced : axis = .x → ∀ lines, lines <+: commands → ∀ command ∈ lines.getLast?,
    command.isMove = true → Command.lastTool lines = 1 → ∀ param ∈ command.written? axis,
      (param.value - offset).isFinite = true

theorem Sound.of_isPrefix {offset : Double} {axis : Axis} {lines commands : List Command}
    (sound : Sound offset axis commands) (start : lines <+: commands) :
    Sound offset axis lines where
  given command member := sound.given command (start.subset member)
  reduced lateral before first := sound.reduced lateral before (first.trans start)

theorem Sound.isFinite_amount {offset : Double} {axis : Axis} {before : List Command}
    {command : Command} (sound : Sound offset axis (before ++ [command])) {write : Write}
    (wrote : Write.ofLine? offset axis before command = some write) :
    write.amount.isFinite = true := by
  rw [Write.ofLine?_eq, Option.map_eq_some_iff] at wrote
  obtain ⟨param, given, rfl⟩ := wrote
  have argument : (if command.isMove = true ∧ axis = .x ∧
      Command.lastTool (before ++ [command]) = 1 then param.value - offset
      else param.value).isFinite = true := by
    split
    · rename_i second
      exact sound.reduced second.2.1 _ (List.prefix_refl _) command (by simp) second.1 second.2.2
        param given
    · exact (sound.given command (by simp) param given).2
  dsimp only
  split
  · exact argument
  · exact argument

namespace State

theorem isNaN_after_of_sound {offset : Double} {axis : Axis} {commands : List Command}
    (sound : Sound offset axis commands) : ((after offset commands).get axis).isNaN = false := by
  induction commands using List.reverseRecOn with
  | nil => cases axis <;> rfl
  | append_singleton before command ih =>
      have earlier := ih (sound.of_isPrefix (List.prefix_append before [command]))
      rw [after_concat, get_step, Write.isNaN_onto _ _ fun _ wrote => sound.isFinite_amount wrote]
      cases wrote : Write.ofLine? offset axis before command with
      | none => exact earlier
      | some write =>
          cases write with
          | set value => exact Binary.isNaN_of_isFinite (sound.isFinite_amount wrote)
          | advance amount => exact earlier

theorem isNaN_after_absolute {offset : Double} (finite : offset.isFinite = true) (axis : Axis)
    {commands : List Command} (absolute : ∀ command ∈ commands, command.code ≠ "G91")
    (honest : ∀ command ∈ commands, ∀ param ∈ command.written? axis,
      param.value.isNaN = !param.valid) :
    ((after offset commands).get axis).isNaN =
      (commands.filterMap (Command.written? axis)).getLast?.any (!·.valid) := by
  induction commands using List.reverseRecOn with
  | nil => cases axis <;> rfl
  | append_singleton before command ih =>
      rw [List.forall_mem_append, List.forall_mem_singleton] at absolute honest
      have earlier := ih absolute.1 honest.1
      rw [after_concat, get_step, Write.ofLine?_eq, Command.lastMode_of_absolute absolute.1,
        List.filterMap_append]
      cases given : command.written? axis with
      | none => simpa [Write.onto, given] using earlier
      | some param =>
          have undefined := honest.2 param given
          have reduced : (param.value - offset).isNaN = !param.valid :=
            (Binary.isNaN_sub finite).trans undefined
          simp only [Option.map_some, Bool.false_eq_true, and_false, if_false, Write.onto,
            List.filterMap_cons_some given, List.filterMap_nil, List.getLast?_concat,
            Option.any_some]
          split
          · exact reduced
          · exact undefined

end State

def Point.along? (point : Point) : Axis → Option Double
  | .x => some point.x
  | .y => some point.y
  | .z => some point.z
  | .e => none
  | .f => none

theorem State.eq_get_of_mem_along? {state : State} {axis : Axis} {coordinate : Double}
    (found : coordinate ∈ state.position.along? axis) : coordinate = state.get axis := by
  cases axis <;> cases found <;> rfl

theorem exists_place_of_mem_moves {offset : Double} {commands : List Command} {move : Move}
    (made : move ∈ moves offset commands) : ∀ point ∈ [move.start, move.stop],
      ∃ lines, lines <+: commands ∧ point = (State.after offset lines).position := by
  induction commands using List.reverseRecOn with
  | nil => simp at made
  | append_singleton before command ih =>
      rw [moves_concat, List.mem_append, List.mem_ite_nil_right, List.mem_singleton] at made
      intro point tip
      rcases made with earlier | ⟨-, rfl⟩
      · obtain ⟨lines, start, place⟩ := ih earlier point tip
        exact ⟨lines, start.trans (List.prefix_append before [command]), place⟩
      · rw [List.mem_cons, List.mem_singleton] at tip
        rcases tip with rfl | rfl
        · exact ⟨before, List.prefix_append before [command], rfl⟩
        · exact ⟨before ++ [command], List.prefix_refl _, rfl⟩

namespace Stack

variable {settings : Settings} {commands : List Command} {layer : Layer}

theorem exists_move_of_mem_segments {kind : Kind} {segment : Segment}
    (listed : layer ∈ (Machine.initial.run settings commands).layers)
    (filed : segment ∈ layer.segments kind) :
    ∃ move ∈ moves settings.toolOffset commands, move.segment = segment := by
  have member : segment ∈ (Machine.initial.run settings commands).stack.segments kind :=
    List.mem_flatMap.mpr ⟨layer, listed, filed⟩
  rw [segments_run, List.mem_filter, List.mem_map] at member
  exact member.1

theorem exists_move_of_mem_layers
    (listed : layer ∈ (Machine.initial.run settings commands).layers) :
    ∃ move ∈ moves settings.toolOffset commands, ∃ point ∈ [move.start, move.stop],
      layer.z = point.z := by
  have member : layer.z ∈ (Machine.initial.run settings commands).stack.heights :=
    List.mem_map_of_mem listed
  rw [Machine.stack_run, heights_foldl_record_empty] at member
  have called := (List.destutter_sublist _ _).subset member
  unfold calledHeights at called
  split at called
  · obtain ⟨move, made, level⟩ := List.mem_map.mp called
    exact ⟨move, made, move.stop, by simp, level.symm⟩
  · rw [List.mem_append, List.mem_map, List.mem_map] at called
    rcases called with ⟨move, first, level⟩ | ⟨move, extruding, level⟩
    · have made := List.mem_of_mem_head? (Option.mem_filter_iff.mp (Option.mem_toList.mp first)).1
      exact ⟨move, made, move.start, by simp, level.symm⟩
    · exact ⟨move, List.mem_of_mem_filter extruding, move.stop, by simp, level.symm⟩

end Stack

/-- An axis whose arguments are finite is never undefined, in no state between two lines, in no end
of a segment and, for Z, in no height of a layer, whatever the other axes are given. In a text
without relative positions an axis is left undefined exactly when the last line that writes it gives
it no number. -/
theorem undefined_contained (settings : Settings) (text : String) (axis : Axis) :
    let commands := Command.ofText text.toList
    (Sound settings.toolOffset axis commands →
      (∀ lines, lines <+: commands →
        ((Machine.initial.run settings lines).state.get axis).isNaN = false) ∧
      ∀ layer ∈ (interpret settings text).layers, (axis = .z → layer.z.isNaN = false) ∧
        ∀ kind, ∀ segment ∈ layer.segments kind, ∀ point ∈ [segment.start, segment.stop],
          ∀ coordinate ∈ point.along? axis, coordinate.isNaN = false) ∧
    ((∀ command ∈ commands, command.code ≠ "G91") →
      (((interpret settings text).state.get axis).isNaN = true ↔
        ∃ param, (commands.filterMap (Command.written? axis)).getLast? = some param ∧
          param.valid = false)) := by
  intro commands
  refine ⟨fun sound => ?_, fun absolute => ?_⟩
  · have place : ∀ move ∈ moves settings.toolOffset commands, ∀ point ∈ [move.start, move.stop],
        ∀ coordinate ∈ point.along? axis, coordinate.isNaN = false := by
      intro move made point tip coordinate along
      obtain ⟨lines, start, rfl⟩ := exists_place_of_mem_moves made point tip
      rw [State.eq_get_of_mem_along? along]
      exact State.isNaN_after_of_sound (sound.of_isPrefix start)
    refine ⟨fun lines start => ?_, fun layer listed => ⟨fun upright => ?_, ?_⟩⟩
    · rw [Machine.state_run]
      exact State.isNaN_after_of_sound (sound.of_isPrefix start)
    · obtain ⟨move, made, point, tip, level⟩ := Stack.exists_move_of_mem_layers listed
      subst upright
      rw [level]
      exact place move made point tip point.z rfl
    · intro kind segment filed
      obtain ⟨move, made, rfl⟩ := Stack.exists_move_of_mem_segments listed filed
      exact place move made
  · have honest : ∀ command ∈ commands, ∀ param ∈ command.written? axis,
        param.value.isNaN = !param.valid := by
      intro command source param written
      rw [Option.mem_def, Command.written?, Option.ite_none_right_eq_some] at written
      exact Command.isNaN_value_of_mem_ofText source written.2
    rw [interpret, Machine.state_run,
      State.isNaN_after_absolute settings.offset_finite axis absolute honest, Option.any_eq_true]
    simp only [Bool.not_eq_true']

theorem undefined_contained_of_overflow :
    let mixed := "G1 X5 Yq T1 E1\nG91\nG1 X1e308\nG92 E\nG1 X1e308 Z-\n"
    let repaired := "G1 Zq E1\nG1 Z2 Xb\nG92 F\n"
    let program := Command.ofText mixed.toList
    let state := (interpret .standard mixed).state
    let final := (interpret .standard repaired).state
    Sound Settings.standard.toolOffset .x program ∧
      (state.get .x).isFinite = false ∧ (state.get .x).isNaN = false ∧
      (state.get .y).isNaN = true ∧
      (∀ command ∈ Command.ofText repaired.toList, command.code ≠ "G91") ∧
      (final.get .z).isNaN = false ∧ (final.get .x).isNaN = true := by
  intro mixed repaired program state final
  have sound : Sound Settings.standard.toolOffset .x program := by
    refine ⟨by decide +kernel, fun _ => ?_⟩
    simp only [← List.mem_inits]
    decide +kernel
  have absolute : ∀ command ∈ Command.ofText repaired.toList, command.code ≠ "G91" := by
    decide +kernel
  have defined := ((undefined_contained .standard mixed .x).1 sound).1 program (List.prefix_refl _)
  have height := (undefined_contained .standard repaired .z).2 absolute
  have lateral := (undefined_contained .standard repaired .x).2 absolute
  refine ⟨sound, by decide +kernel, defined, by decide +kernel, absolute, ?_, ?_⟩
  · rw [← Bool.not_eq_true, height]
    decide +kernel
  · exact lateral.mpr ⟨⟨"b", .nan, false⟩, by decide +kernel, rfl⟩

end Toolpath
