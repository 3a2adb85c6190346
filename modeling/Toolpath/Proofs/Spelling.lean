import Mathlib.Data.Fintype.Defs
import Mathlib.Data.List.Forall2
import Mathlib.Tactic.IntervalCases
import Toolpath.Proofs.Chunks
import Toolpath.Proofs.Parameters
import Toolpath.Proofs.Whole

/-! Programs of linear moves written down from whole numbers. Reading such a text gives the commands
that carry the targets back (`spells_written`). -/

namespace Toolpath

open Text

theorem mem_digits_of_isDigit {char : Char} (digit : char.isDigit = true) :
    char ∈ "0123456789".toList := by
  have range := Char.isDigit_iff_toNat.mp digit
  rw [← Char.ofNat_toNat char]
  generalize char.toNat = code at range
  obtain ⟨low, high⟩ := range
  change 48 ≤ code at low
  change code ≤ 57 at high
  interval_cases code <;> decide

theorem isDigit_of_mem_toDigits {value : Nat} {char : Char} (member : char ∈ Nat.toDigits 10 value) :
    char.isDigit = true :=
  Nat.isDigit_of_mem_toDigits (by decide) (by decide) member

theorem toList_toString (value : Int) :
    (toString value).toList =
      (if value < 0 then ['-'] else []) ++ Nat.toDigits 10 value.natAbs := by
  rw [Int.toString_eq_repr, Int.repr_eq_if]
  by_cases negative : value < 0
  · have size : (-value).toNat = value.natAbs := by omega
    rw [if_neg (Int.not_le.mpr negative), if_pos negative, size, String.toList_append,
      Nat.toList_repr]
    rfl
  · have size : value.toNat = value.natAbs := by omega
    rw [if_pos (Int.not_lt.mp negative), if_neg negative, size, Nat.toList_repr, List.nil_append]

theorem mem_toString {value : Int} {char : Char} (member : char ∈ (toString value).toList) :
    char ∈ "-0123456789".toList := by
  rw [toList_toString, List.mem_append] at member
  rcases member with sign | digit
  · split at sign
    · rw [List.mem_singleton.mp sign]
      decide
    · contradiction
  · exact List.mem_cons_of_mem _ (mem_digits_of_isDigit (isDigit_of_mem_toDigits digit))

theorem Text.digit?_of_isDigit {char : Char} (digit : char.isDigit = true) :
    digit? char = some (char.toNat - 48) := by
  have table : "0123456789".toList.all (fun char => digit? char = some (char.toNat - 48)) = true := by
    decide
  simpa using List.all_eq_true.mp table char (mem_digits_of_isDigit digit)

namespace Numeral

theorem takeDigits_of_isDigit {text : List Char} (digits : ∀ char ∈ text, char.isDigit = true) :
    takeDigits text = (text.map fun char => char.toNat - 48, []) := by
  induction text with
  | nil => rfl
  | cons char rest ih =>
      rw [List.forall_mem_cons] at digits
      simp [takeDigits, digit?_of_isDigit digits.1, ih digits.2]

theorem ofDigits_toDigits (value : Nat) :
    ofDigits ((Nat.toDigits 10 value).map fun char => char.toNat - 48) = value := by
  rw [ofDigits, List.foldl_map]
  calc (Nat.toDigits 10 value).foldl (fun total char => total * 10 + (char.toNat - 48)) 0
      = Nat.ofDigitChars 10 (Nat.toDigits 10 value) 0 := by
        simp only [Nat.ofDigitChars_eq_foldl, Nat.mul_comm]
        rfl
    _ = value := Nat.ofDigitChars_ten_toDigits

theorem takeDecimal?_toDigits (negative : Bool) (value : Nat) :
    takeDecimal? negative (Nat.toDigits 10 value) = some (decimal ⟨negative, value, 0⟩, []) := by
  have filled : Nat.toDigits 10 value ≠ [] := Nat.toDigits_ne_nil
  have mantissa : takeMantissa? (Nat.toDigits 10 value) =
      some (((Nat.toDigits 10 value).map fun char => char.toNat - 48, 0), []) := by
    have digits := takeDigits_of_isDigit fun _ => @isDigit_of_mem_toDigits value _
    simp [takeMantissa?, digits, filled]
  simp [takeDecimal?, mantissa, takeExponent, ofDigits_toDigits]

theorem leading?_toString (value : Int) :
    leading? (toString value).toList =
      some (decimal ⟨value < 0, value.natAbs, 0⟩, []) := by
  have digits : ∀ char ∈ Nat.toDigits 10 value.natAbs, char.isDigit = true :=
    fun _ => isDigit_of_mem_toDigits
  have read := takeDecimal?_toDigits (value < 0) value.natAbs
  have filled : Nat.toDigits 10 value.natAbs ≠ [] := Nat.toDigits_ne_nil
  rw [toList_toString]
  generalize Nat.toDigits 10 value.natAbs = text at digits read filled ⊢
  obtain ⟨first, rest, rfl⟩ := List.exists_cons_of_ne_nil filled
  have digit : first.isDigit = true := digits first (by simp)
  have word : "Infinity".toList.isPrefixOf? (first :: rest) = none := by
    have other : ('I' == first) = false := by
      rw [beq_eq_false_iff_ne]
      rintro rfl
      contradiction
    simp [List.isPrefixOf?, other]
  have unsigned : takeSign (first :: rest) = (false, first :: rest) := by
    unfold takeSign
    split
    · simp_all
    · simp_all
    · rfl
  by_cases negative : value < 0
  · rw [decide_eq_true negative] at read ⊢
    simp only [leading?, negative, if_true, List.singleton_append, takeSign, word, read]
  · rw [decide_eq_false negative] at read ⊢
    simp only [leading?, negative, if_false, List.nil_append, unsigned, word, read]

end Numeral

namespace Binary

variable {format : Format}

theorem ofDecimal_whole (value : Int) :
    (ofDecimal ⟨value < 0, value.natAbs, 0⟩ : Binary format) = ofInt value := by
  unfold ofDecimal
  by_cases zero : value = 0
  · simp [zero, ofInt_zero]
  · have digits : value.natAbs ≠ 0 := by omega
    have reach : ¬(format.reach : Int) < 0 := by omega
    have shift : ¬(0 : Int) + (value.natAbs.log2 + 2 + format.fraction : Nat) < 0 := by omega
    simp only [digits, reach, shift, if_false]
    simp [Decimal.scale, ofInt]

end Binary

theorem Param.parse_toString (value : Int) :
    Param.parse (toString value).toList = ⟨toString value, .ofInt value, true⟩ := by
  have solid : (toString value).toList.dropWhile isBlank = (toString value).toList := by
    rw [List.dropWhile_eq_self_iff]
    intro filled
    have plain : "-0123456789".toList.all (!isBlank ·) = true := by decide
    have first := List.all_eq_true.mp plain _ (mem_toString (List.getElem_mem filled))
    rwa [Bool.not_eq_true, ← Bool.not_eq_true']
  simp only [Param.parse, solid, Numeral.leading?_toString, Numeral.value, Binary.ofDecimal_whole,
    String.ofList_toList]

abbrev Targets := PerAxis (Option Int)

namespace Axis

instance : Fintype Axis := ⟨⟨all, by decide⟩, by intro axis; cases axis <;> decide⟩

def capital : Axis → Char
  | x => 'X'
  | y => 'Y'
  | z => 'Z'
  | e => 'E'
  | f => 'F'

def word (axis : Axis) (value : Int) : List Char := axis.capital :: (toString value).toList

theorem key?_word (axis : Axis) (value : Int) :
    Params.key? (axis.word value) = some axis.letter := by
  cases axis <;> exact congrArg some (by decide +kernel)

theorem letter_inj {axis other : Axis} : axis.letter = other.letter ↔ axis = other := by
  cases axis <;> cases other <;> decide

end Axis

namespace Targets

def words (targets : Targets) : List (List Char) :=
  Axis.all.filterMap fun axis => (targets.get axis).map axis.word

def line (targets : Targets) : List Char :=
  "G1".toList ++ (words targets).flatMap (' ' :: ·)

theorem words_filter (targets : Targets) (axis : Axis) :
    (words targets).filter (Params.key? · = some axis.letter) =
      ((targets.get axis).map axis.word).toList := by
  have kept (other : Axis) :
      ((targets.get other).map other.word).filter (Params.key? · = some axis.letter) =
        if other = axis then (targets.get other).map other.word else none := by
    cases targets.get other with
    | none => simp
    | some value =>
        by_cases same : other = axis <;>
          simp [Option.filter, Axis.key?_word, Axis.letter_inj, same]
  rw [words, List.filter_filterMap]
  simp only [kept]
  cases axis
  all_goals
    simp only [Axis.all, List.filterMap_cons, List.filterMap_nil, reduceCtorEq, if_true, if_false]
    cases targets.get _ <;> rfl

def alphabet : List Char := "G1XYZEF-0123456789".toList

theorem mem_alphabet {targets : Targets} {word : List Char}
    (member : word ∈ "G1".toList :: words targets) :
    word ≠ [] ∧ ∀ char ∈ word, char ∈ alphabet := by
  rcases List.mem_cons.mp member with rfl | argument
  · have known : "G1".toList ⊆ alphabet := by decide
    exact ⟨by decide, fun char spelled => known spelled⟩
  · obtain ⟨axis, _, found⟩ := List.mem_filterMap.mp argument
    obtain ⟨value, _, rfl⟩ := Option.map_eq_some_iff.mp found
    refine ⟨List.cons_ne_nil _ _, List.forall_mem_cons.mpr ⟨?_, ?_⟩⟩
    · cases axis <;> decide
    · intro char spelled
      have known : "-0123456789".toList ⊆ alphabet := by decide
      exact known (mem_toString spelled)

theorem mem_line {targets : Targets} {char : Char} (member : char ∈ line targets) :
    char ∈ ' ' :: alphabet := by
  rw [line, List.mem_append, List.mem_flatMap] at member
  rcases member with code | ⟨word, argument, spelled⟩
  · exact List.mem_cons_of_mem _ ((@mem_alphabet targets _ List.mem_cons_self).2 char code)
  · rcases List.mem_cons.mp spelled with rfl | inside
    · exact List.mem_cons_self
    · exact List.mem_cons_of_mem _
        ((mem_alphabet (List.mem_cons_of_mem _ argument)).2 char inside)

theorem words_line (targets : Targets) :
    Text.words (line targets) = "G1".toList :: words targets := by
  have plain : alphabet.all (!isBlank ·) = true := by decide
  apply words_spaced
  intro word member
  obtain ⟨nonempty, spelled⟩ := mem_alphabet member
  refine ⟨nonempty, ?_⟩
  intro char inside
  simpa using List.all_eq_true.mp plain char (spelled char inside)

theorem unbroken_line (targets : Targets) : Unbroken (line targets) := by
  have plain : Unbroken (' ' :: alphabet) := by decide
  exact fun char member => plain char (mem_line member)

end Targets

namespace Command

/-- Holds of the linear moves with the given targets as arguments, written without a tool. -/
structure Carries (targets : Targets) (command : Command) : Prop where
  linear : command.isMove = true
  unmarked : command.tool = none
  arguments : ∀ axis, command.value? axis.letter = (targets.get axis).map Binary.ofInt

instance (targets : Targets) (command : Command) : Decidable (command.Carries targets) :=
  decidable_of_iff (command.isMove = true ∧ command.tool = none ∧
      ∀ axis, command.value? axis.letter = (targets.get axis).map Binary.ofInt)
    ⟨fun ⟨linear, unmarked, arguments⟩ => ⟨linear, unmarked, arguments⟩,
      fun ⟨linear, unmarked, arguments⟩ => ⟨linear, unmarked, arguments⟩⟩

theorem toolMarker?_of_not_mem {text : List Char} (absent : 'T' ∉ text) :
    toolMarker? text = none := by
  have unmentioned (digit : Char) : mentionsTool digit text = false := by
    induction text with
    | nil => rfl
    | cons char rest ih =>
        rw [List.mem_cons, not_or] at absent
        have other : ¬char = 'T' := fun same => absent.1 same.symm
        simp [mentionsTool, other, ih absent.2]
  simp [toolMarker?, unmentioned]

theorem carries_ofLine (targets : Targets) (number : Int) :
    Carries targets (ofLine targets.line number) := by
  have whole : withoutComment targets.line = targets.line := by
    have uncommented : ';' ∉ ' ' :: Targets.alphabet := by decide
    exact withoutComment_eq_self fun member => uncommented (Targets.mem_line member)
  have read := ofLine_of_cons number (whole.symm ▸ Targets.words_line targets)
  rw [whole] at read
  rw [read]
  refine ⟨?_, ?_, ?_⟩
  · have code : String.ofList (upper "G1".toList) = "G1" := by decide +kernel
    simp only [isMove, code]
    decide
  · have unmarked : 'T' ∉ ' ' :: Targets.alphabet := by decide
    exact toolMarker?_of_not_mem fun member => unmarked (Targets.mem_line member)
  · intro axis
    rw [value?, Params.lookup_ofWords, Targets.words_filter]
    cases targets.get axis with
    | none => rfl
    | some value =>
        simp only [Option.map_some, Option.toList_some, List.getLast?_singleton, Axis.word,
          List.tail_cons, Param.parse_toString]

theorem carries_lines (program : List Targets) (number : Nat) :
    List.Forall₂ Carries program
      (((program.map Targets.line).zipIdx number).map fun (line, index) => ofLine line index) := by
  induction program generalizing number with
  | nil => exact .nil
  | cons targets rest ih => exact .cons (carries_ofLine targets number) (ih _)

end Command

/-- A text sets a mode by its first line and moves by the others, one line for the targets of each
move. -/
def Spells (mode : String) (program : List Targets) (text : String) : Prop :=
  ∃ first moves, Command.ofText text.toList = first :: moves ∧ first.code = mode ∧
    first.tool = none ∧ List.Forall₂ Command.Carries program moves

instance (mode : String) (program : List Targets) (text : String) :
    Decidable (Spells mode program text) :=
  match read : Command.ofText text.toList with
  | [] => .isFalse (by simp [Spells, read])
  | first :: moves => decidable_of_iff
      (first.code = mode ∧ first.tool = none ∧ List.Forall₂ Command.Carries program moves)
      (by simp [Spells, read])

def written (mode : String) (program : List Targets) : String :=
  String.ofList ((mode.toList :: program.map Targets.line).flatMap (· ++ ['\n']))

theorem spells_written {mode : String} (known : mode = "G90" ∨ mode = "G91")
    (program : List Targets) : Spells mode program (written mode program) := by
  have plain : ∀ line ∈ mode.toList :: program.map Targets.line, Unbroken line := by
    rw [List.forall_mem_cons, List.forall_mem_map]
    refine ⟨?_, fun targets _ => targets.unbroken_line⟩
    rcases known with rfl | rfl <;> decide
  have read : Command.ofText (written mode program).toList =
      Command.ofLine mode.toList 1 :: ((program.map Targets.line).zipIdx 2).map
        fun (line, number) => Command.ofLine line number := by
    rw [written, String.toList_ofList, Command.ofText_eq_ofLine, lines_joined plain]
    rfl
  refine ⟨_, _, read, ?_, ?_, Command.carries_lines program 2⟩
  · rcases known with rfl | rfl <;> decide +kernel
  · rcases known with rfl | rfl <;> decide

end Toolpath
