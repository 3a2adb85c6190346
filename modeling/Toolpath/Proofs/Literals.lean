import Mathlib.Data.Nat.Digits.Defs
import Toolpath.Number.Numeral
import Toolpath.Proofs.Nearest

/-!
The texts that read as numbers, with the magnitudes they write. The reader of leading numerals reads
a literal to its end, no less where more follows, and nothing else.
-/

namespace Toolpath

open Text

abbrev Digit := { char : Char // isDigit char = true }

def Digit.value (digit : Digit) : Nat := (digit? digit.val).get digit.property

theorem Digit.digit?_val (digit : Digit) : digit? digit.val = some digit.value :=
  (Option.some_get digit.property).symm

abbrev Digits := List Digit

namespace Digits

def text (digits : Digits) : List Char := digits.map (·.val)

def values (digits : Digits) : List Nat := digits.map Digit.value

def whole (digits : Digits) : Nat := Nat.ofDigits 10 digits.values.reverse

theorem isDigit_of_mem_text {digits : Digits} {char : Char} (member : char ∈ digits.text) :
    isDigit char = true := by
  obtain ⟨digit, -, rfl⟩ := List.mem_map.mp member
  exact digit.property

@[simp] theorem text_cons (digit : Digit) (rest : Digits) :
    text (digit :: rest) = digit.val :: rest.text := rfl

@[simp] theorem text_nil : text [] = [] := rfl

@[simp] theorem values_cons (digit : Digit) (rest : Digits) :
    values (digit :: rest) = digit.value :: rest.values := rfl

@[simp] theorem values_nil : values [] = [] := rfl

theorem values_eq_nil_iff {digits : Digits} : digits.values = [] ↔ digits = [] :=
  List.map_eq_nil_iff

theorem isDigit_of_head {digits : Digits} (filled : digits ≠ []) (tail : List Char) :
    ∀ char ∈ (digits.text ++ tail).head?, isDigit char = true := by
  obtain ⟨digit, rest, rfl⟩ := List.exists_cons_of_ne_nil filled
  rintro _ ⟨⟩
  exact digit.property

theorem length_values (digits : Digits) : digits.values.length = digits.length := List.length_map _

end Digits

theorem Numeral.ofDigits_eq (digits : List Nat) :
    ofDigits digits = Nat.ofDigits 10 digits.reverse := by
  induction digits using List.reverseRecOn with
  | nil => rfl
  | append_singleton digits digit ih =>
      rw [List.reverse_concat, Nat.ofDigits_cons, ← ih, ofDigits, List.foldl_concat, ← ofDigits]
      ring

theorem Digits.ofDigits_values (digits : Digits) : Numeral.ofDigits digits.values = digits.whole :=
  Numeral.ofDigits_eq digits.values

inductive Sign where
  | absent
  | plus
  | minus

namespace Sign

def text : Sign → List Char
  | absent => []
  | plus => ['+']
  | minus => ['-']

def isMinus : Sign → Bool
  | minus => true
  | _ => false

end Sign

/-- Digits, or digits around a point with at least one on either side. -/
inductive Mantissa where
  | whole (digits : Digits) (filled : digits ≠ [])
  | pointed (before after : Digits) (filled : before ++ after ≠ [])

namespace Mantissa

def text : Mantissa → List Char
  | whole digits _ => digits.text
  | pointed before after _ => before.text ++ '.' :: after.text

def value : Mantissa → ℚ
  | whole digits _ => digits.whole
  | pointed before after _ => before.whole + after.whole / 10 ^ after.length

def values : Mantissa → List Nat
  | whole digits _ => digits.values
  | pointed before after _ => before.values ++ after.values

def places : Mantissa → Nat
  | whole _ _ => 0
  | pointed _ after _ => after.length

end Mantissa

/-- A letter in either case, an optional sign and at least one digit. -/
structure Exponent where
  isCapital : Bool
  sign : Sign
  digits : Digits
  filled : digits ≠ []

namespace Exponent

def letter (exponent : Exponent) : Char := if exponent.isCapital then 'E' else 'e'

def text (exponent : Exponent) : List Char :=
  exponent.letter :: (exponent.sign.text ++ exponent.digits.text)

def value (exponent : Exponent) : Int :=
  if exponent.sign.isMinus then -exponent.digits.whole else exponent.digits.whole

end Exponent

inductive Literal where
  | infinity (sign : Sign)
  | decimal (sign : Sign) (mantissa : Mantissa) (exponent : Option Exponent)

namespace Literal

def exponentText (exponent : Option Exponent) : List Char := (exponent.map Exponent.text).getD []

def power (exponent : Option Exponent) : Int := (exponent.map Exponent.value).getD 0

@[simp] theorem exponentText_none : exponentText none = [] := rfl

@[simp] theorem exponentText_some (exponent : Exponent) :
    exponentText (some exponent) = exponent.text := rfl

def text : Literal → List Char
  | infinity sign => sign.text ++ "Infinity".toList
  | decimal sign mantissa exponent => sign.text ++ (mantissa.text ++ exponentText exponent)

def negative : Literal → Bool
  | infinity sign => sign.isMinus
  | decimal sign _ _ => sign.isMinus

def magnitude : Literal → WithTop ℚ
  | infinity _ => ⊤
  | decimal _ mantissa exponent => (mantissa.value * 10 ^ power exponent : ℚ)

def numeral : Literal → Numeral
  | infinity sign => .infinity sign.isMinus
  | decimal sign mantissa exponent => .decimal
      ⟨sign.isMinus, Numeral.ofDigits mantissa.values, power exponent - mantissa.places⟩

end Literal

namespace Numeral

theorem takeDigits_append (digits : Digits) (tail : List Char) :
    takeDigits (digits.text ++ tail) =
      (digits.values ++ (takeDigits tail).1, (takeDigits tail).2) := by
  induction digits with
  | nil => rfl
  | cons digit rest ih =>
      rw [Digits.text_cons, List.cons_append, takeDigits, digit.digit?_val]
      simp [ih]

theorem takeDigits_of_stop {tail : List Char} (stops : ∀ char ∈ tail.head?, isDigit char = false) :
    takeDigits tail = ([], tail) := by
  cases tail with
  | nil => rfl
  | cons char rest =>
      have other : digit? char = none := by simpa [isDigit] using stops char rfl
      rw [takeDigits, other]

theorem exists_digits (text : List Char) :
    ∃ digits : Digits, text = digits.text ++ (takeDigits text).2 ∧
      (takeDigits text).1 = digits.values := by
  induction text with
  | nil => exact ⟨[], rfl, rfl⟩
  | cons char rest ih =>
      rw [takeDigits]
      cases found : digit? char with
      | none => exact ⟨[], rfl, rfl⟩
      | some value =>
          obtain ⟨digits, parts, values⟩ := ih
          have isDigit : isDigit char = true := by simp [Text.isDigit, found]
          have same : Digit.value ⟨char, isDigit⟩ = value := by simp [Digit.value, found]
          refine ⟨⟨char, isDigit⟩ :: digits, ?_, ?_⟩
          · rw [Digits.text_cons, List.cons_append, ← parts]
          · rw [Digits.values_cons, ← values, same]

theorem takeDigits_suffix (text : List Char) : (takeDigits text).2 <:+ text := by
  obtain ⟨digits, parts, -⟩ := exists_digits text
  exact ⟨digits.text, parts.symm⟩

theorem takeMantissa?_of_point {text tail : List Char} {digits : List Nat}
    (read : takeDigits text = (digits, '.' :: tail)) :
    takeMantissa? text =
      if digits.isEmpty && (takeDigits tail).1.isEmpty then none
      else some ((digits ++ (takeDigits tail).1, (takeDigits tail).1.length),
        (takeDigits tail).2) := by
  rw [takeMantissa?, read]
  rfl

theorem takeMantissa?_of_other {text rest : List Char} {digits : List Nat}
    (read : takeDigits text = (digits, rest)) (other : ∀ tail, rest ≠ '.' :: tail) :
    takeMantissa? text = if digits.isEmpty then none else some ((digits, 0), rest) := by
  rw [takeMantissa?, read]
  dsimp only
  split
  · rename_i tail
    exact absurd rfl (other tail)
  · rfl

theorem takeMantissa?_pointed {before after : Digits} (filled : before ++ after ≠ [])
    (tail : List Char) :
    takeMantissa? ((Mantissa.pointed before after filled).text ++ tail) =
      some ((before.values ++ (after.values ++ (takeDigits tail).1),
        (after.values ++ (takeDigits tail).1).length), (takeDigits tail).2) := by
  have point : takeDigits ('.' :: (after.text ++ tail)) = ([], '.' :: (after.text ++ tail)) :=
    takeDigits_of_stop (by simp; decide)
  have read := takeDigits_append before ('.' :: (after.text ++ tail))
  rw [point, List.append_nil] at read
  rw [Mantissa.text, List.append_assoc, List.cons_append, takeMantissa?_of_point read,
    takeDigits_append, if_neg]
  simp only [Bool.and_eq_true, List.isEmpty_iff, List.append_eq_nil_iff,
    Digits.values_eq_nil_iff]
  rintro ⟨noneBefore, noneAfter, -⟩
  exact filled (by rw [noneBefore, noneAfter, List.append_nil])

theorem takeMantissa?_of_stop (mantissa : Mantissa) {tail : List Char}
    (stops : ∀ char ∈ tail.head?, isDigit char = false ∧ char ≠ '.') :
    takeMantissa? (mantissa.text ++ tail) = some ((mantissa.values, mantissa.places), tail) := by
  have stopped := takeDigits_of_stop fun char first => (stops char first).1
  cases mantissa with
  | whole digits filled =>
      have read := takeDigits_append digits tail
      rw [stopped, List.append_nil] at read
      rw [Mantissa.text, takeMantissa?_of_other read, if_neg]
      · rfl
      · simpa [Digits.values_eq_nil_iff] using filled
      · rintro rest rfl
        exact (stops '.' rfl).2 rfl
  | pointed before after filled =>
      rw [takeMantissa?_pointed, stopped, List.append_nil, Digits.length_values]
      rfl

theorem takeMantissa?_append (mantissa : Mantissa) (tail : List Char) :
    ∃ found rest, takeMantissa? (mantissa.text ++ tail) = some (found, rest) ∧ rest <:+ tail := by
  cases mantissa with
  | whole digits filled =>
      have solid : ¬(digits.values ++ (takeDigits tail).1).isEmpty = true := by
        simp [Digits.values_eq_nil_iff, filled]
      have read := takeDigits_append digits tail
      have suffix := takeDigits_suffix tail
      -- What follows may bring more digits, and then a point that makes the mantissa another one.
      by_cases point : ∃ behind, (takeDigits tail).2 = '.' :: behind
      · obtain ⟨behind, point⟩ := point
        rw [point] at read suffix
        rw [Mantissa.text, takeMantissa?_of_point read, if_neg (by simp_all)]
        exact ⟨_, _, rfl,
          (takeDigits_suffix behind).trans ((List.suffix_cons '.' behind).trans suffix)⟩
      · rw [Mantissa.text, takeMantissa?_of_other read (not_exists.mp point), if_neg solid]
        exact ⟨_, _, rfl, suffix⟩
  | pointed before after filled =>
      rw [takeMantissa?_pointed]
      exact ⟨_, _, rfl, takeDigits_suffix tail⟩

theorem exists_mantissa {text rest : List Char} {digits : List Nat} {places : Nat}
    (found : takeMantissa? text = some ((digits, places), rest)) :
    ∃ mantissa : Mantissa, text = mantissa.text ++ rest ∧ mantissa.values = digits ∧
      mantissa.places = places := by
  obtain ⟨before, parts, values⟩ := exists_digits text
  have read : takeDigits text = (before.values, (takeDigits text).2) := by rw [← values]
  by_cases point : ∃ behind, (takeDigits text).2 = '.' :: behind
  · obtain ⟨behind, point⟩ := point
    obtain ⟨after, partsAfter, valuesAfter⟩ := exists_digits behind
    rw [point] at read
    rw [takeMantissa?_of_point read, valuesAfter] at found
    split at found
    · contradiction
    · rename_i filled
      cases found
      refine ⟨.pointed before after ?_, ?_, rfl, (Digits.length_values after).symm⟩
      · simpa [Digits.values_eq_nil_iff] using filled
      · rw [Mantissa.text, List.append_assoc, List.cons_append, ← partsAfter, ← point, ← parts]
  · rw [takeMantissa?_of_other read (not_exists.mp point)] at found
    split at found
    · contradiction
    · rename_i filled
      cases found
      exact ⟨.whole before (by simpa [Digits.values_eq_nil_iff] using filled), parts, rfl, rfl⟩

theorem unlike_of_begins {char : Char} (begins : isDigit char = true ∨ char = '.') :
    char ≠ 'I' ∧ char ≠ '-' ∧ char ≠ '+' := by
  rcases begins with digit | rfl
  · refine ⟨?_, ?_, ?_⟩ <;> rintro rfl <;> revert digit <;> decide
  · decide

theorem takeSign_append (sign : Sign) {tail : List Char}
    (unsigned : ∀ char ∈ tail.head?, char ≠ '-' ∧ char ≠ '+') :
    takeSign (sign.text ++ tail) = (sign.isMinus, tail) := by
  cases sign with
  | absent =>
      rw [Sign.text, List.nil_append, takeSign.eq_3]
      · rfl
      · rintro rest rfl
        exact (unsigned '-' rfl).1 rfl
      · rintro rest rfl
        exact (unsigned '+' rfl).2 rfl
  | plus => rfl
  | minus => rfl

theorem exists_sign (text : List Char) :
    ∃ sign : Sign, text = sign.text ++ (takeSign text).2 ∧ (takeSign text).1 = sign.isMinus := by
  unfold takeSign
  split
  · exact ⟨.minus, rfl, rfl⟩
  · exact ⟨.plus, rfl, rfl⟩
  · exact ⟨.absent, rfl, rfl⟩

theorem takeExponent_append (exponent : Exponent) (tail : List Char) :
    takeExponent (exponent.text ++ tail) =
      (let total : Int := ofDigits (exponent.digits.values ++ (takeDigits tail).1)
      if exponent.sign.isMinus then -total else total, (takeDigits tail).2) := by
  have letter : exponent.letter = 'e' ∨ exponent.letter = 'E' := by
    unfold Exponent.letter
    split <;> simp
  have unsigned : ∀ char ∈ (exponent.digits.text ++ tail).head?, char ≠ '-' ∧ char ≠ '+' :=
    fun char first =>
      (unlike_of_begins (.inl (Digits.isDigit_of_head exponent.filled tail char first))).2
  have filled : exponent.digits.values ≠ [] := Digits.values_eq_nil_iff.not.mpr exponent.filled
  rw [Exponent.text, List.cons_append, List.append_assoc, takeExponent,
    takeSign_append _ unsigned]
  dsimp only
  rw [takeDigits_append]
  simp [letter, filled]

theorem exists_exponent (text : List Char) :
    ∃ exponent : Option Exponent, text = Literal.exponentText exponent ++ (takeExponent text).2 ∧
      (takeExponent text).1 = Literal.power exponent := by
  unfold takeExponent
  split
  · rename_i letter tail
    obtain ⟨sign, signed, minus⟩ := exists_sign tail
    obtain ⟨digits, parts, values⟩ := exists_digits (takeSign tail).2
    split
    · rename_i known
      dsimp only
      rw [values]
      split
      · exact ⟨none, rfl, rfl⟩
      · rename_i filled
        have nonempty : digits ≠ [] := by simpa [Digits.values_eq_nil_iff] using filled
        refine ⟨some ⟨letter = 'E', sign, digits, nonempty⟩, ?_, ?_⟩
        · have spelled : (⟨letter = 'E', sign, digits, nonempty⟩ : Exponent).letter = letter := by
            simp only [Bool.or_eq_true, decide_eq_true_eq] at known
            rcases known with rfl | rfl <;> rfl
          rw [Literal.exponentText_some, Exponent.text, spelled, List.cons_append,
            List.append_assoc, ← parts, ← signed]
        · simp [Literal.power, Exponent.value, minus, Digits.ofDigits_values]
    · exact ⟨none, rfl, rfl⟩
  · exact ⟨none, rfl, rfl⟩

theorem takeExponent_suffix (text : List Char) : (takeExponent text).2 <:+ text := by
  obtain ⟨exponent, parts, -⟩ := exists_exponent text
  exact ⟨Literal.exponentText exponent, parts.symm⟩

theorem takeDecimal?_of_mantissa (negative : Bool) {text behind : List Char} {digits : List Nat}
    {places : Nat} (read : takeMantissa? text = some ((digits, places), behind)) :
    takeDecimal? negative text =
      some (.decimal ⟨negative, ofDigits digits, (takeExponent behind).1 - places⟩,
        (takeExponent behind).2) := by
  rw [takeDecimal?, read]

theorem stops_exponent (exponent : Exponent) (tail : List Char) :
    ∀ char ∈ (exponent.text ++ tail).head?, isDigit char = false ∧ char ≠ '.' := by
  rintro _ ⟨⟩
  rw [Exponent.letter]
  split <;> decide

theorem takeDecimal?_text (negative : Bool) (mantissa : Mantissa) (exponent : Option Exponent) :
    takeDecimal? negative (mantissa.text ++ Literal.exponentText exponent) =
      some (.decimal ⟨negative, ofDigits mantissa.values,
        Literal.power exponent - mantissa.places⟩, []) := by
  cases exponent with
  | none =>
      have read : takeMantissa? (mantissa.text ++ []) = _ :=
        takeMantissa?_of_stop mantissa (by simp)
      rw [Literal.exponentText_none, takeDecimal?_of_mantissa negative read]
      rfl
  | some exponent =>
      have read := takeMantissa?_of_stop mantissa (stops_exponent exponent [])
      have power := takeExponent_append exponent []
      rw [List.append_nil] at read power
      rw [Literal.exponentText_some, takeDecimal?_of_mantissa negative read, power]
      simp [Literal.power, Exponent.value, takeDigits, Digits.ofDigits_values]

theorem takeDecimal?_append (negative : Bool) (mantissa : Mantissa) (exponent : Option Exponent)
    (tail : List Char) :
    ∃ numeral rest, takeDecimal? negative
      (mantissa.text ++ (Literal.exponentText exponent ++ tail)) = some (numeral, rest) ∧
        rest <:+ tail := by
  cases exponent with
  | none =>
      obtain ⟨⟨digits, places⟩, behind, read, suffix⟩ := takeMantissa?_append mantissa tail
      exact ⟨_, _, takeDecimal?_of_mantissa negative read,
        (takeExponent_suffix behind).trans suffix⟩
  | some exponent =>
      have read := takeMantissa?_of_stop mantissa (stops_exponent exponent tail)
      refine ⟨_, _, takeDecimal?_of_mantissa negative read, ?_⟩
      rw [takeExponent_append]
      exact takeDigits_suffix tail

theorem exists_decimal {negative : Bool} {text rest : List Char} {numeral : Numeral}
    (found : takeDecimal? negative text = some (numeral, rest)) :
    ∃ (mantissa : Mantissa) (exponent : Option Exponent),
      text = mantissa.text ++ (Literal.exponentText exponent ++ rest) ∧
      numeral = .decimal ⟨negative, ofDigits mantissa.values,
        Literal.power exponent - mantissa.places⟩ := by
  cases read : takeMantissa? text with
  | none =>
      rw [takeDecimal?, read] at found
      contradiction
  | some result =>
      obtain ⟨⟨digits, places⟩, behind⟩ := result
      obtain ⟨mantissa, parts, rfl, rfl⟩ := exists_mantissa read
      obtain ⟨exponent, partsBehind, power⟩ := exists_exponent behind
      rw [takeDecimal?_of_mantissa negative read, power] at found
      cases found
      exact ⟨mantissa, exponent, by rw [← partsBehind, ← parts], rfl⟩

theorem head_mantissa (mantissa : Mantissa) (tail : List Char) :
    ∀ char ∈ (mantissa.text ++ tail).head?, isDigit char = true ∨ char = '.' := by
  cases mantissa with
  | whole digits filled =>
      exact fun char first => .inl (Digits.isDigit_of_head filled tail char first)
  | pointed before after filled =>
      cases before with
      | nil => exact fun char first => .inr (Option.some.inj first).symm
      | cons digit rest =>
          rintro _ ⟨⟩
          exact .inl digit.property

theorem isPrefixOf?_mantissa (mantissa : Mantissa) (tail : List Char) :
    "Infinity".toList.isPrefixOf? (mantissa.text ++ tail) = none := by
  have head := head_mantissa mantissa tail
  cases found : mantissa.text ++ tail with
  | nil => rfl
  | cons char rest =>
      rw [found] at head
      have other : ('I' == char) = false :=
        beq_eq_false_iff_ne.mpr (unlike_of_begins (head char rfl)).1.symm
      simp [List.isPrefixOf?, other]

theorem takeSign_mantissa (sign : Sign) (mantissa : Mantissa) (tail : List Char) :
    takeSign (sign.text ++ (mantissa.text ++ tail)) = (sign.isMinus, mantissa.text ++ tail) :=
  takeSign_append sign fun char first =>
    (unlike_of_begins (head_mantissa mantissa tail char first)).2

theorem takeSign_infinity (sign : Sign) (tail : List Char) :
    takeSign (sign.text ++ ("Infinity".toList ++ tail)) =
      (sign.isMinus, "Infinity".toList ++ tail) :=
  takeSign_append sign (by simp)

theorem leading?_infinity (sign : Sign) (tail : List Char) :
    leading? (sign.text ++ ("Infinity".toList ++ tail)) =
      some (infinity sign.isMinus, tail) := by
  rw [leading?, takeSign_infinity]
  simp [List.isPrefixOf?]

theorem leading?_decimal (sign : Sign) (mantissa : Mantissa) (tail : List Char) :
    leading? (sign.text ++ (mantissa.text ++ tail)) =
      takeDecimal? sign.isMinus (mantissa.text ++ tail) := by
  rw [leading?, takeSign_mantissa]
  dsimp only
  rw [isPrefixOf?_mantissa]

/-- A literal is read to its end. -/
theorem leading?_text (literal : Literal) : leading? literal.text = some (literal.numeral, []) := by
  cases literal with
  | infinity sign =>
      rw [Literal.text, ← List.append_nil "Infinity".toList]
      exact leading?_infinity sign []
  | decimal sign mantissa exponent =>
      rw [Literal.text, leading?_decimal]
      exact takeDecimal?_text sign.isMinus mantissa exponent

theorem leading?_append (literal : Literal) (tail : List Char) :
    ∃ numeral rest, leading? (literal.text ++ tail) = some (numeral, rest) ∧ rest <:+ tail := by
  cases literal with
  | infinity sign =>
      rw [Literal.text, List.append_assoc, leading?_infinity]
      exact ⟨_, _, rfl, List.suffix_refl tail⟩
  | decimal sign mantissa exponent =>
      rw [Literal.text, List.append_assoc, List.append_assoc, leading?_decimal]
      exact takeDecimal?_append sign.isMinus mantissa exponent tail

theorem exists_literal {text rest : List Char} {numeral : Numeral}
    (found : leading? text = some (numeral, rest)) :
    ∃ literal : Literal, text = literal.text ++ rest ∧ literal.numeral = numeral := by
  obtain ⟨sign, signed, minus⟩ := exists_sign text
  unfold leading? at found
  dsimp only at found
  split at found
  · rename_i infinite
    cases found
    have parts : (takeSign text).2 = "Infinity".toList ++ rest :=
      (List.isPrefixOf?_eq_some_iff_append_eq.mp infinite).symm
    refine ⟨.infinity sign, ?_, ?_⟩
    · rw [Literal.text, List.append_assoc, ← parts, ← signed]
    · rw [minus, Literal.numeral]
  · obtain ⟨mantissa, exponent, parts, rfl⟩ := exists_decimal found
    refine ⟨.decimal sign mantissa exponent, ?_, ?_⟩
    · rw [Literal.text, List.append_assoc, List.append_assoc, ← parts, ← signed]
    · rw [minus, Literal.numeral]

end Numeral

end Toolpath
