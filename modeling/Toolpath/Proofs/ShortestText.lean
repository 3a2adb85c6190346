import Toolpath.Number.Written
import Toolpath.Proofs.Longest
import Toolpath.Proofs.Recovery
import Toolpath.Proofs.Spelling

/-! The shortest text of a number is a literal with the value of the decimal that it was made from,
so it reads back as the number. -/

namespace Toolpath

namespace Digits

theorem exists_of_toDigits (value : Nat) :
    ∃ digits : Digits, digits ≠ [] ∧ digits.text = Nat.toDigits 10 value ∧
      digits.whole = value := by
  obtain ⟨digits, parts, values⟩ := Numeral.exists_digits (Nat.toDigits 10 value)
  rw [Numeral.takeDigits_of_isDigit fun _ => isDigit_of_mem_toDigits, List.append_nil] at parts
  rw [Numeral.takeDigits_of_isDigit fun _ => isDigit_of_mem_toDigits] at values
  refine ⟨digits, ?_, parts.symm, ?_⟩
  · rintro rfl
    exact Nat.toDigits_ne_nil parts
  · rw [← ofDigits_values, ← values]
    exact Numeral.ofDigits_toDigits value

theorem text_append (before after : Digits) :
    text (before ++ after) = before.text ++ after.text := List.map_append

theorem whole_append (before after : Digits) :
    whole (before ++ after) = before.whole * 10 ^ after.length + after.whole := by
  rw [whole, whole, whole, values, List.map_append, List.reverse_append, Nat.ofDigits_append,
    List.length_reverse, List.length_map, ← values, ← values]
  ring

def zeros (count : Nat) : Digits := List.replicate count ⟨'0', by decide⟩

theorem text_zeros (count : Nat) : (zeros count).text = List.replicate count '0' :=
  List.map_replicate

theorem length_zeros (count : Nat) : (zeros count).length = count := List.length_replicate

theorem whole_zeros (count : Nat) : (zeros count).whole = 0 := by
  induction count with
  | zero => rfl
  | succ count ih =>
      rw [zeros, List.replicate_succ', whole_append, ← zeros, ih]
      decide

theorem exists_significant (digits : Digits) :
    ∃ (kept : Digits) (count : Nat), digits = kept ++ zeros count ∧
      kept.text = (digits.text.reverse.dropWhile (· == '0')).reverse := by
  induction digits using List.reverseRecOn with
  | nil => exact ⟨[], 0, rfl, rfl⟩
  | append_singleton digits last ih =>
      rw [text_append, List.reverse_append]
      by_cases zero : last.val = '0'
      · obtain ⟨kept, count, parts, text⟩ := ih
        refine ⟨kept, count + 1, ?_, ?_⟩
        · rw [zeros, List.replicate_succ', ← zeros, ← List.append_assoc, ← parts]
          congr
          exact Subtype.ext zero
        · simpa [zero] using text
      · exact ⟨digits ++ [last], 0, (List.append_nil _).symm, by simp [zero, text_append]⟩

end Digits

theorem Mantissa.value_pointed (before after : Digits) (filled : before ++ after ≠ []) :
    (pointed before after filled).value =
      Digits.whole (before ++ after) * (10 : ℚ) ^ (-after.length : Int) := by
  have values : before.values ++ after.values = Digits.values (before ++ after) :=
    List.map_append.symm
  rw [value_eq, Mantissa.values, values, Digits.ofDigits_values, places, zpow_neg, zpow_natCast,
    div_eq_mul_inv]

/-- Holds of a mantissa, perhaps with an exponent, and the value that it writes. -/
def Shows (text : List Char) (value : ℚ) : Prop :=
  ∃ (mantissa : Mantissa) (exponent : Option Exponent),
    text = mantissa.text ++ Literal.exponentText exponent ∧
      mantissa.value * 10 ^ Literal.power exponent = value

theorem Mantissa.shows (mantissa : Mantissa) : Shows mantissa.text mantissa.value :=
  ⟨mantissa, none, by simp, by simp [Literal.power]⟩

namespace Style

theorem exists_padded (value : Nat) :
    ∃ digits : Digits, digits ≠ [] ∧ digits.whole = value ∧
      (if (toString value).length < 2 then "0" ++ toString value else toString value).toList =
        digits.text := by
  obtain ⟨digits, filled, text, whole⟩ := Digits.exists_of_toDigits value
  have shown : (toString value).toList = digits.text := by
    rw [text, Nat.toString_eq_repr, Nat.toList_repr]
  split
  · refine ⟨.zeros 1 ++ digits, by simp [filled], ?_, ?_⟩
    · rw [Digits.whole_append, Digits.whole_zeros, whole, Nat.zero_mul, Nat.zero_add]
    · rw [Digits.text_append, Digits.text_zeros, String.toList_append, shown]
      rfl
  · exact ⟨digits, filled, whole, shown⟩

theorem shows_exponentText (mantissa : Mantissa) (order : Int) :
    Shows (mantissa.text ++ (exponentText order).toList) (mantissa.value * 10 ^ order) := by
  obtain ⟨digits, filled, whole, shown⟩ := exists_padded order.natAbs
  refine ⟨mantissa, some ⟨false, if order < 0 then .minus else .plus, digits, filled⟩, ?_, ?_⟩
  · unfold exponentText
    dsimp only
    rw [String.toList_append, shown, Literal.exponentText_some, Exponent.text]
    split <;> rfl
  · congr 2
    simp only [Literal.power, Option.map_some, Option.getD_some, Exponent.value, whole]
    split
    · simp only [Sign.isMinus, if_true]
      omega
    · simp only [Sign.isMinus, Bool.false_eq_true, if_false]
      omega

variable (style : Style) {digits : Digits} (filled : digits ≠ [])

include filled

theorem shows_exponential (order : Int) (beyond : order < style.lowest ∨ style.highest < order) :
    Shows (style.write digits.text order).toList
      (digits.whole * (10 : ℚ) ^ (order + 1 - digits.length)) := by
  obtain ⟨lead, rest, rfl⟩ := List.exists_cons_of_ne_nil filled
  rw [write.eq_def, if_pos (by simpa using beyond)]
  cases rest with
  | nil =>
      have shown := shows_exponentText (.whole [lead] filled) order
      simpa [Mantissa.text, Mantissa.value] using shown
  | cons next rest =>
      have shown := shows_exponentText (.pointed [lead] (next :: rest) filled) order
      have power : -((next :: rest).length : Int) + order =
          order + 1 - (lead :: next :: rest).length := by
        simp only [List.length_cons]
        omega
      rw [Mantissa.value_pointed, mul_assoc, ← zpow_add₀ (by decide), power] at shown
      simpa [Mantissa.text] using shown

theorem shows_fraction (zeros : Nat) :
    Shows ("0.".toList ++ (List.replicate zeros '0' ++ digits.text))
      (digits.whole * (10 : ℚ) ^ (-(zeros + digits.length) : Int)) := by
  have shown := (Mantissa.pointed (.zeros 1) (.zeros zeros ++ digits) (by simp [filled])).shows
  have length : (Digits.zeros zeros ++ digits).length = zeros + digits.length := by
    rw [List.length_append, Digits.length_zeros]
  rw [Mantissa.value_pointed, length, Digits.whole_append, Digits.whole_append, Digits.whole_zeros,
    Digits.whole_zeros, Nat.zero_mul, Nat.zero_mul, Nat.zero_add, Nat.zero_add,
    Nat.cast_add] at shown
  simpa [Mantissa.text, Digits.text_append, Digits.text_zeros] using shown

theorem shows_padded (zeros : Nat) :
    Shows (digits.text ++ List.replicate zeros '0' ++
        (if style.keepsPoint then ".0" else "").toList) (digits.whole * 10 ^ zeros) := by
  have padded : (digits ++ Digits.zeros zeros).whole = digits.whole * 10 ^ zeros := by
    rw [Digits.whole_append, Digits.whole_zeros, Digits.length_zeros, Nat.add_zero]
  have solid : digits ++ Digits.zeros zeros ≠ [] := by simp [filled]
  cases style.keepsPoint with
  | true =>
      have shown := (Mantissa.pointed (digits ++ .zeros zeros) (.zeros 1) (by simp [filled])).shows
      rw [Mantissa.value_pointed, Digits.whole_append, Digits.whole_zeros, padded,
        Digits.length_zeros] at shown
      simpa [Mantissa.text, Digits.text_append, Digits.text_zeros] using shown
  | false =>
      have shown := (Mantissa.whole (digits ++ .zeros zeros) solid).shows
      rw [Mantissa.value, padded] at shown
      simpa [Mantissa.text, Digits.text_append, Digits.text_zeros] using shown

theorem shows_divided (places : Nat) :
    Shows (digits.text.take places ++ '.' :: digits.text.drop places)
      (digits.whole * (10 : ℚ) ^ (-(digits.length - places : Nat) : Int)) := by
  have parts : digits.take places ++ digits.drop places = digits := List.take_append_drop ..
  have solid : digits.take places ++ digits.drop places ≠ [] := by rwa [parts]
  have value := Mantissa.value_pointed _ _ solid
  rw [parts, List.length_drop] at value
  have shown := (Mantissa.pointed _ _ solid).shows
  rw [value] at shown
  simpa [Mantissa.text, Digits.text, List.map_take, List.map_drop] using shown

/-- What is written from some digits has their value, with the first of them at the given order. -/
theorem shows_write (order : Int) :
    Shows (style.write digits.text order).toList
      (digits.whole * (10 : ℚ) ^ (order + 1 - digits.length)) := by
  by_cases beyond : order < style.lowest ∨ style.highest < order
  · exact style.shows_exponential filled order beyond
  rw [write.eq_def, if_neg (by simpa using beyond)]
  have length : digits.text.length = digits.length := List.length_map _
  split
  · rename_i small
    have shown := shows_fraction filled (order.natAbs - 1)
    rw [show (-((order.natAbs - 1 : Nat) + digits.length) : Int) = order + 1 - digits.length by
      omega] at shown
    simpa using shown
  · rename_i large
    obtain ⟨whole, rfl⟩ := Int.eq_ofNat_of_zero_le (Int.not_lt.mp large)
    simp only [Int.natAbs_natCast, length]
    by_cases fits : digits.length ≤ whole + 1
    · have shown := style.shows_padded filled (whole + 1 - digits.length)
      rw [← zpow_natCast, Nat.cast_sub fits] at shown
      rw [List.take_of_length_le (length.trans_le fits),
        List.drop_of_length_le (length.trans_le fits)]
      simpa using shown
    · have shown := shows_divided filled (whole + 1)
      rw [show (-(digits.length - (whole + 1) : Nat) : Int) = whole + 1 - digits.length by
        omega] at shown
      have some : (digits.text.drop (whole + 1)).isEmpty = false := by
        rw [List.isEmpty_eq_false_iff, ne_eq, List.drop_eq_nil_iff]
        omega
      simpa [some, show whole + 1 - digits.length = 0 by omega] using shown

omit filled

theorem shows_writeDecimal {decimal : Decimal} (nonzero : decimal.digits ≠ 0) :
    Shows (style.writeDecimal decimal).toList decimal.magnitude := by
  obtain ⟨digits, -, text, whole⟩ := Digits.exists_of_toDigits decimal.digits
  obtain ⟨kept, count, parts, significant⟩ := digits.exists_significant
  have value : decimal.digits = kept.whole * 10 ^ count := by
    rw [← whole, parts, Digits.whole_append, Digits.whole_zeros, Digits.length_zeros, Nat.add_zero]
  have length : (Nat.toDigits 10 decimal.digits).length = kept.length + count := by
    rw [← text, Digits.text, List.length_map, parts, List.length_append, Digits.length_zeros]
  have filled : kept ≠ [] := by
    rintro rfl
    exact nonzero (value.trans (Nat.zero_mul _))
  have shown := style.shows_write filled (decimal.exponent + (kept.length + count : Nat) - 1)
  rw [show decimal.exponent + (kept.length + count : Nat) - 1 + 1 - kept.length =
    count + decimal.exponent by omega, zpow_add₀ (by decide), zpow_natCast, ← mul_assoc] at shown
  rw [text] at significant
  rw [writeDecimal, length, ← significant, Decimal.magnitude, value]
  exact_mod_cast shown

end Style

namespace Binary

variable {format : Format}

def signOf (negative : Bool) : Sign := if negative then .minus else .absent

theorem text_signOf (negative : Bool) : (signOf negative).text = (signText negative).toList := by
  cases negative <;> rfl

theorem isMinus_signOf (negative : Bool) : (signOf negative).isMinus = negative := by
  cases negative <;> rfl

theorem Rounds.with_sign {sign negative : Bool} {magnitude : WithTop ℚ} {steps : Nat}
    {exact : format.Exact steps} (rounds : Rounds sign magnitude (finite negative steps exact))
    (other : Bool) : Rounds other magnitude (finite other steps exact) := by
  cases rounds with
  | within small closest => exact .within small closest

section

variable (fine : 1 < format.precision) (roomy : format.precision ≤ format.reach)
  (plenty : 2 ^ format.precision < 10 ^ 16)

include fine roomy plenty

theorem exists_literal_shortestText (negative : Bool) {steps : Nat} (exact : format.Exact steps) :
    ∃ literal : Literal, (finite negative steps exact).shortestText.toList = literal.text ∧
      (literal.numeral.value : Binary format) = finite negative steps exact := by
  rw [shortestText, String.toList_append, ← text_signOf]
  split
  · rename_i none
    subst none
    refine ⟨.decimal (signOf negative) (.pointed (.zeros 1) (.zeros 1) (by decide)) none, rfl, ?_⟩
    cases negative <;> rfl
  · rename_i nonzero
    have reads := Shortest.ofDecimal_digits fine roomy plenty nonzero exact
    generalize Shortest.digits steps (finite false steps exact) = decimal at reads ⊢
    have digits : decimal.digits ≠ 0 := by
      intro none
      rw [ofDecimal, if_pos none] at reads
      exact nonzero (Binary.finite.inj reads).2.symm
    obtain ⟨mantissa, exponent, text, value⟩ := Style.report.shows_writeDecimal digits
    refine ⟨.decimal (signOf negative) mantissa exponent, by rw [text]; rfl, ?_⟩
    have rounds := rounds_ofDecimal fine roomy decimal
    rw [reads] at rounds
    have read := Literal.rounds_numeral fine roomy
      (.decimal (signOf negative) mantissa exponent)
    rw [Literal.magnitude, value, Literal.negative, isMinus_signOf] at read
    exact read.unique (rounds.with_sign negative)

theorem whole?_shortestText (number : Binary format) :
    (Numeral.whole? number.shortestText.toList).map Numeral.value = some number := by
  cases number with
  | nan =>
      have word : Numeral.whole? "nan".toList = some .nan := by decide
      rw [shortestText, word]
      rfl
  | infinite negative =>
      have word : Numeral.whole? (signText negative ++ "inf").toList =
          some (.infinity negative) := by
        cases negative <;> decide
      rw [shortestText, word]
      rfl
  | finite negative steps exact =>
      obtain ⟨literal, text, value⟩ := exists_literal_shortestText fine roomy plenty negative exact
      rw [text, Numeral.whole?_text, Option.map_some, value]

end

end Binary

end Toolpath
