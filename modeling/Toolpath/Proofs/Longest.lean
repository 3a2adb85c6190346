import Toolpath.Command
import Toolpath.Proofs.Literals
import Toolpath.Proofs.Undefined

/-! Reading a parameter takes the longest literal behind the blanks and rounds its magnitude. -/

namespace Toolpath

open Text

theorem Mantissa.value_eq (mantissa : Mantissa) :
    mantissa.value = Numeral.ofDigits mantissa.values / 10 ^ mantissa.places := by
  cases mantissa with
  | whole digits filled =>
      rw [values, Digits.ofDigits_values, places, pow_zero, div_one]
      rfl
  | pointed before after filled =>
      have power : (10 ^ after.length : ℚ) ≠ 0 := pow_ne_zero _ (by decide)
      rw [values, Numeral.ofDigits_eq, List.reverse_append, Nat.ofDigits_append,
        List.length_reverse, Digits.length_values, places, value]
      simp only [Nat.cast_add, Nat.cast_mul, Nat.cast_pow, Nat.cast_ofNat]
      rw [add_div, mul_div_cancel_left₀ _ power, add_comm]
      rfl

theorem Literal.rounds_numeral {format : Format} (fine : 1 < format.precision)
    (roomy : format.precision ≤ format.reach) (literal : Literal) :
    Binary.Rounds literal.negative literal.magnitude (literal.numeral.value : Binary format) := by
  cases literal with
  | infinity sign => exact .beyond le_top
  | decimal sign mantissa exponent =>
      have rounded := Binary.rounds_ofDecimal fine roomy
        ⟨sign.isMinus, Numeral.ofDigits mantissa.values, power exponent - mantissa.places⟩
      have same : mantissa.value * 10 ^ power exponent = Decimal.magnitude
          ⟨sign.isMinus, Numeral.ofDigits mantissa.values, power exponent - mantissa.places⟩ := by
        rw [Decimal.magnitude, mantissa.value_eq, zpow_sub₀ (by decide), zpow_natCast,
          div_mul_eq_mul_div, mul_div_assoc]
      rw [magnitude, same]
      exact rounded

/-- Holds of the longest literal at the front of a text. -/
structure Literal.Longest (literal : Literal) (text : List Char) : Prop where
  begins : literal.text <+: text
  longest : ∀ other : Literal, other.text <+: text → other.text.length ≤ literal.text.length

namespace Numeral

theorem longest_of_leading? {text rest : List Char} {literal : Literal} {numeral : Numeral}
    (found : leading? text = some (numeral, rest)) (parts : text = literal.text ++ rest) :
    literal.Longest text := by
  refine ⟨⟨rest, parts.symm⟩, ?_⟩
  rintro other ⟨tail, rfl⟩
  obtain ⟨_, _, read, suffix⟩ := leading?_append other tail
  rw [found] at read
  cases read
  have lengths := congrArg List.length parts
  have shorter := suffix.length_le
  rw [List.length_append, List.length_append] at lengths
  omega

theorem leading?_of_longest {text : List Char} {literal : Literal}
    (longest : literal.Longest text) : ∃ rest, leading? text = some (literal.numeral, rest) := by
  obtain ⟨tail, rfl⟩ := longest.begins
  obtain ⟨numeral, rest, read, -⟩ := leading?_append literal tail
  obtain ⟨other, parts, rfl⟩ := exists_literal read
  have otherLongest := longest_of_leading? read parts
  have sameLength := Nat.le_antisymm (longest.longest other otherLongest.begins)
    (otherLongest.longest literal longest.begins)
  have sameText : literal.text = other.text := List.append_inj_left parts sameLength.symm
  have sameNumeral : literal.numeral = other.numeral := by
    have readOther := leading?_text other
    rw [← sameText, leading?_text] at readOther
    exact congrArg Prod.fst (Option.some.inj readOther)
  exact ⟨rest, sameNumeral ▸ read⟩

theorem leading?_isSome_iff (text : List Char) :
    ((leading? text).isSome = true ↔ ∃ literal : Literal, literal.text <+: text) ∧
      ((leading? text).isSome = true → ∃ literal : Literal, literal.Longest text) := by
  constructor
  · constructor
    · intro some
      obtain ⟨⟨numeral, rest⟩, read⟩ := Option.isSome_iff_exists.mp some
      obtain ⟨literal, parts, -⟩ := exists_literal read
      exact ⟨literal, rest, parts.symm⟩
    · rintro ⟨literal, tail, rfl⟩
      obtain ⟨numeral, rest, read, -⟩ := leading?_append literal tail
      simp [read]
  · intro some
    obtain ⟨⟨numeral, rest⟩, read⟩ := Option.isSome_iff_exists.mp some
    obtain ⟨literal, parts, -⟩ := exists_literal read
    exact ⟨literal, longest_of_leading? read parts⟩

end Numeral

theorem Text.isDigit_iff {char : Char} : isDigit char = true ↔
    ∃ start ∈ zeroDigits, start ≤ char.toNat ∧ char.toNat < start + 10 := by
  simp [isDigit, digit?]

theorem Text.isBlank_of_isDigit {char : Char} (digit : isDigit char = true) : isBlank char = false := by
  have table : ∀ start ∈ zeroDigits, ∀ range ∈ blankRanges,
      range.last < start ∨ start + 10 ≤ range.first := by decide
  obtain ⟨start, listed, least, most⟩ := isDigit_iff.mp digit
  rw [isBlank, within, List.any_eq_false]
  intro range member inside
  have apart := table start listed range member
  simp only [Bool.and_eq_true, decide_eq_true_eq] at inside
  omega

theorem Text.toLower_of_begins {char : Char} (begins : isDigit char = true ∨ char = '.') :
    char.toLower = char := by
  have table : ∀ start ∈ zeroDigits, start + 10 ≤ 'A'.toNat ∨ 'Z'.toNat < start := by decide
  rcases begins with digit | rfl
  · obtain ⟨start, listed, least, most⟩ := isDigit_iff.mp digit
    have apart := table start listed
    refine dif_neg ?_
    rintro ⟨low, high⟩
    have least : 'A'.toNat ≤ char.toNat := low
    have most : char.toNat ≤ 'Z'.toNat := high
    omega
  · decide

def Literal.marks : List Char := "+-.eE".toList ++ "Infinity".toList

theorem Literal.isDigit_or_mark {literal : Literal} {char : Char} (member : char ∈ literal.text) :
    isDigit char = true ∨ char ∈ marks := by
  have signs (sign : Sign) : ∀ char ∈ sign.text, char ∈ marks := by
    cases sign <;> simp [Sign.text, marks]
  have digits {digits : Digits} (member : char ∈ digits.text) : isDigit char = true :=
    Digits.isDigit_of_mem_text member
  cases literal with
  | infinity sign =>
      rcases List.mem_append.mp member with sign | letter
      · exact .inr (signs _ char sign)
      · exact .inr (List.mem_append_right _ letter)
  | decimal sign mantissa exponent =>
      rcases List.mem_append.mp member with sign | member
      · exact .inr (signs _ char sign)
      rcases List.mem_append.mp member with inMantissa | inExponent
      · cases mantissa with
        | whole _ _ => exact .inl (digits inMantissa)
        | pointed before after filled =>
            rcases List.mem_append.mp inMantissa with digit | inAfter
            · exact .inl (digits digit)
            · rcases List.mem_cons.mp inAfter with rfl | digit
              · exact .inr (by decide)
              · exact .inl (digits digit)
      · cases exponent with
        | none => contradiction
        | some exponent =>
            rcases List.mem_cons.mp inExponent with rfl | member
            · right
              rw [Exponent.letter]
              split <;> decide
            · exact (List.mem_append.mp member).symm.imp digits (signs _ char)

namespace Numeral

theorem trim_of_plain {drops : Char → Bool} {text : List Char}
    (plain : ∀ char ∈ text, drops char = false) : trim drops text = text := by
  have kept {text : List Char} (plain : ∀ char ∈ text, drops char = false) :
      text.dropWhile drops = text := by
    cases text with
    | nil => rfl
    | cons char rest => rw [List.dropWhile_cons, plain char (List.mem_cons_self ..)]; rfl
  rw [trim, kept plain, kept (by simpa using plain), List.reverse_reverse]

theorem dropSeparators?_of_plain {text : List Char} (plain : '_' ∉ text) (afterDigit : Bool) :
    dropSeparators? afterDigit text = some text := by
  induction text generalizing afterDigit with
  | nil => rfl
  | cons char rest ih =>
      rw [List.mem_cons, not_or] at plain
      rw [dropSeparators?, ih plain.2]
      · rfl
      · exact fun same _ => plain.1 same.symm
      · exact fun _ _ same _ => plain.1 same.symm

theorem whole?_text (literal : Literal) : whole? literal.text = some literal.numeral := by
  have plain : ∀ char ∈ literal.text, isMargin char = false ∧ char ≠ '_' := by
    -- A Boolean, since a quantifier over characters would be decided on every one there is.
    have marks : Literal.marks.all (fun char => !isMargin char && char != '_') = true := by decide
    intro char member
    rcases Literal.isDigit_or_mark member with digit | mark
    · refine ⟨by simp [isMargin, isBlank_of_isDigit digit], ?_⟩
      rintro rfl
      revert digit
      decide
    · simpa using List.all_eq_true.mp marks char mark
  rw [whole?, trim_of_plain fun char member => (plain char member).1,
    dropSeparators?_of_plain fun member => (plain _ member).2 rfl]
  dsimp only
  cases literal with
  | infinity sign =>
      have word : String.ofList (("Infinity".toList ++ []).map Char.toLower) = "infinity" := by
        decide
      rw [Literal.text, ← List.append_nil "Infinity".toList, takeSign_infinity]
      dsimp only
      rw [word]
      rfl
  | decimal sign mantissa exponent =>
      have other {first : Char} {rest : List Char} (letter : first ∈ ['i', 'n']) :
          String.ofList ((mantissa.text ++ Literal.exponentText exponent).map Char.toLower) ≠
            String.ofList (first :: rest) := by
        intro same
        have head := congrArg List.head? (String.ofList_inj.mp same)
        rw [List.head?_map, List.head?_cons, Option.map_eq_some_iff] at head
        obtain ⟨char, found, lower⟩ := head
        have begins := head_mantissa mantissa (Literal.exponentText exponent) char found
        rw [toLower_of_begins begins] at lower
        subst lower
        have solid : isDigit char = false ∧ char ≠ '.' := by
          simp only [List.mem_cons, List.not_mem_nil, or_false] at letter
          rcases letter with rfl | rfl <;> decide
        rcases begins with digit | point
        · rw [solid.1] at digit
          contradiction
        · exact solid.2 point
      rw [Literal.text, takeSign_mantissa]
      dsimp only
      rw [if_neg, if_neg, takeDecimal?_text]
      · rfl
      · exact other (by decide)
      · simp only [Bool.or_eq_true, decide_eq_true_eq, not_or]
        exact ⟨other (by decide), other (by decide)⟩

end Numeral

namespace Param

variable {text : List Char} {literal : Literal}

theorem parse_of_longest (longest : literal.Longest (text.dropWhile isBlank)) :
    parse text = ⟨String.ofList text, literal.numeral.value, true⟩ := by
  obtain ⟨rest, read⟩ := Numeral.leading?_of_longest longest
  rw [parse, read]

theorem valid_parse (text : List Char) :
    (parse text).valid = (Numeral.leading? (text.dropWhile isBlank)).isSome := by
  unfold parse
  split
  · rename_i found
    rw [found]
    rfl
  · rename_i absent
    rw [absent]
    rfl

theorem prefix_append (begins : literal.text <+: text.dropWhile isBlank) (more : List Char) :
    literal.text <+: (text ++ more).dropWhile isBlank := by
  have filled : text.dropWhile isBlank ≠ [] := by
    intro blank
    have empty : literal.text = [] := by simpa [blank] using begins
    have read := Numeral.leading?_text literal
    rw [empty] at read
    contradiction
  rw [List.dropWhile_append, if_neg (by simpa using filled)]
  exact begins.trans (List.prefix_append ..)

/-- Reading a parameter takes the longest literal behind the blanks and gives the one number to
which its sign and magnitude are rounded, whatever follows it; without a literal it gives none.
The reader of whole texts takes every literal, and for the same number. -/
theorem parse_reads_longest :
    (∀ text : List Char,
      let body := text.dropWhile isBlank
      ((parse text).valid = true ↔ ∃ literal : Literal, literal.text <+: body) ∧
      ((parse text).valid = true → ∃ literal : Literal, literal.Longest body) ∧
      (parse text).value.isNaN = !(parse text).valid ∧
      ∀ literal : Literal, literal.Longest body →
        (∀ number, Binary.Rounds literal.negative literal.magnitude number ↔
          number = (parse text).value) ∧
        ∀ more, (∀ other : Literal, other.text <+: (text ++ more).dropWhile isBlank →
            other.text.length ≤ literal.text.length) →
          (parse (text ++ more)).value = (parse text).value ∧
          (parse (text ++ more)).valid = (parse text).valid) ∧
    ∀ literal : Literal, ∃ numeral, Numeral.whole? literal.text = some numeral ∧
      Binary.Rounds literal.negative literal.magnitude (numeral.value : Double) := by
  have rounds (literal : Literal) : Binary.Rounds literal.negative literal.magnitude
      (literal.numeral.value : Double) := literal.rounds_numeral (by decide) (by decide)
  refine ⟨fun text => ?_, fun literal => ⟨_, Numeral.whole?_text literal, rounds literal⟩⟩
  obtain ⟨found, longest⟩ := Numeral.leading?_isSome_iff (text.dropWhile isBlank)
  rw [← valid_parse] at found longest
  refine ⟨found, longest, isNaN_parse text, fun literal longest => ⟨fun number => ?_, ?_⟩⟩
  · rw [parse_of_longest longest]
    constructor
    · exact fun rounded => rounded.unique (rounds literal)
    · rintro rfl
      exact rounds literal
  · intro more longestStill
    have extended : literal.Longest ((text ++ more).dropWhile isBlank) :=
      ⟨prefix_append longest.begins more, longestStill⟩
    rw [parse_of_longest longest, parse_of_longest extended]
    exact ⟨rfl, rfl⟩

theorem parse_reads_longest_of_unfinished :
    let text := "\t-1٢.5e+x".toList
    let literal : Literal := .decimal .minus (.pointed [⟨'1', by decide⟩, ⟨'٢', by decide⟩]
      [⟨'5', by decide⟩] (List.cons_ne_nil _ _)) none
    (parse text).valid = true ∧ literal.Longest (text.dropWhile isBlank) ∧
      literal.text = "-1٢.5".toList ∧
      Binary.Rounds literal.negative literal.magnitude (parse text).value ∧
      (parse text).value = (-25 / 2 : Double) ∧
      literal.Longest ((text ++ "7".toList).dropWhile isBlank) ∧
      (parse (text ++ "7".toList)).value = (parse text).value := by
  intro text literal
  have read : Numeral.leading? (text.dropWhile isBlank) =
      some (.decimal ⟨true, 125, -1⟩, "e+x".toList) := by decide +kernel
  have readMore : Numeral.leading? ((text ++ "7".toList).dropWhile isBlank) =
      some (.decimal ⟨true, 125, -1⟩, "e+x7".toList) := by decide +kernel
  have longest : literal.Longest (text.dropWhile isBlank) :=
    Numeral.longest_of_leading? read (by decide +kernel)
  have longestMore : literal.Longest ((text ++ "7".toList).dropWhile isBlank) :=
    Numeral.longest_of_leading? readMore (by decide +kernel)
  obtain ⟨reads, -⟩ := parse_reads_longest
  obtain ⟨valid, -, -, taken⟩ := reads text
  obtain ⟨rounds, extended⟩ := taken literal longest
  have value : (parse text).value = (-25 / 2 : Double) := by decide +kernel
  exact ⟨valid.mpr ⟨literal, longest.begins⟩, longest, by decide +kernel, (rounds _).mpr rfl, value,
    longestMore, (extended "7".toList longestMore.longest).1⟩

end Param

end Toolpath
