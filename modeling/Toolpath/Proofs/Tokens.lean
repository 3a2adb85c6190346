import Mathlib.Data.List.Infix
import Toolpath.Proofs.Chunks
import Toolpath.Proofs.Parameters

/-! A line is what its tokens say, however they are set on it. Every line writes exactly one list of
tokens (`writes_iff`). -/

namespace Toolpath

open Text

namespace Text

def Blank (gap : List Char) : Prop := ∀ char ∈ gap, isBlank char = true

structure Token (word : List Char) : Prop where
  filled : word ≠ []
  solid : ∀ char ∈ word, isBlank char = false
  plain : ';' ∉ word

/-- A text of tokens with blanks behind each of them. Only the last token may have none. -/
inductive Spaced : List (List Char) → List Char → Prop
  | nil : Spaced [] []
  | cons {word gap text : List Char} {rest : List (List Char)} (token : Token word)
      (blank : Blank gap) (parted : rest ≠ [] → gap ≠ []) (following : Spaced rest text) :
      Spaced (word :: rest) (word ++ (gap ++ text))

/-- A line of spaced tokens, with blanks in front and perhaps a comment at the end. -/
inductive Writes (tokens : List (List Char)) : List Char → Prop
  | plain {lead body : List Char} (blank : Blank lead) (spaced : Spaced tokens body) :
      Writes tokens (lead ++ body)
  | commented {lead body : List Char} (blank : Blank lead) (spaced : Spaced tokens body)
      (comment : List Char) : Writes tokens (lead ++ body ++ ';' :: comment)

theorem Blank.plain {gap : List Char} (blank : Blank gap) : ';' ∉ gap := by
  intro member
  have white := blank _ member
  revert white
  decide

theorem words_blank_append {gap : List Char} (blank : Blank gap) (text : List Char) :
    words (gap ++ text) = words text := by
  induction gap with
  | nil => rfl
  | cons char gap ih =>
      obtain ⟨white, blank⟩ := List.forall_mem_cons.mp blank
      rw [List.cons_append, words_blank_cons _ white, ih blank]

namespace Spaced

variable {tokens : List (List Char)} {body : List Char}

theorem plain (spaced : Spaced tokens body) : ';' ∉ body := by
  induction spaced with
  | nil => exact List.not_mem_nil
  | cons token blank parted following ih => simp [token.plain, blank.plain, ih]

theorem words_eq (spaced : Spaced tokens body) : words body = tokens := by
  induction spaced with
  | nil => rfl
  | @cons word gap text rest token blank parted following ih =>
      have alone := words_of_solid token.filled token.solid
      cases gap with
      | nil =>
          have last : rest = [] := not_not.mp fun more => parted more rfl
          subst last
          cases following
          simpa using alone
      | cons char gap =>
          obtain ⟨white, blank⟩ := List.forall_mem_cons.mp blank
          rw [List.cons_append, words_append_blank _ _ white, words_blank_append blank, alone, ih,
            List.singleton_append]

end Spaced

theorem exists_spaced {text : List Char} (plain : ';' ∉ text) :
    ∃ tokens lead body, Blank lead ∧ Spaced tokens body ∧ text = lead ++ body := by
  induction text with
  | nil => exact ⟨[], [], [], by simp [Blank], .nil, rfl⟩
  | cons char rest ih =>
      rw [List.mem_cons, not_or] at plain
      obtain ⟨tokens, lead, body, blank, spaced, rfl⟩ := ih plain.2
      cases white : isBlank char with
      | true =>
          exact ⟨tokens, char :: lead, body, List.forall_mem_cons.mpr ⟨white, blank⟩, spaced, rfl⟩
      | false =>
          have single : Token [char] := ⟨by simp, by simpa using white, by simpa using plain.1⟩
          have none : Blank [] := by simp [Blank]
          cases lead with
          | cons first lead =>
              exact ⟨[char] :: tokens, [], _, none, .cons single blank (by simp) spaced, rfl⟩
          | nil =>
              cases spaced with
              | nil =>
                  exact ⟨[[char]], [], _, none, .cons single none (by simp) .nil, rfl⟩
              | @cons word gap text rest token blank parted following =>
                  have longer : Token (char :: word) := by
                    refine ⟨by simp, List.forall_mem_cons.mpr ⟨white, token.solid⟩, ?_⟩
                    rw [List.mem_cons, not_or]
                    exact ⟨plain.1, token.plain⟩
                  exact ⟨(char :: word) :: rest, [], _, none,
                    .cons longer blank parted following, rfl⟩

end Text

namespace Command

theorem writes_iff {tokens : List (List Char)} {line : List Char} :
    Writes tokens line ↔ words (withoutComment line) = tokens := by
  constructor
  · intro written
    cases written with
    | plain blank spaced =>
        have whole := withoutComment_eq_self (List.not_mem_append blank.plain spaced.plain)
        rw [whole, words_blank_append blank, spaced.words_eq]
    | commented blank spaced comment =>
        have cut := withoutComment_append (List.not_mem_append blank.plain spaced.plain) comment
        rw [cut, words_blank_append blank, spaced.words_eq]
  · rintro rfl
    have plain : ';' ∉ withoutComment line := fun member => by
      simpa using List.mem_takeWhile_imp member
    obtain ⟨tokens, lead, body, blank, spaced, text⟩ := exists_spaced plain
    have read : words (withoutComment line) = tokens := by
      rw [text, words_blank_append blank, spaced.words_eq]
    have parts : withoutComment line ++ line.dropWhile (· != ';') = line :=
      List.takeWhile_append_dropWhile
    rw [read]
    cases comment : line.dropWhile (· != ';') with
    | nil =>
        rw [comment, List.append_nil, text] at parts
        exact parts ▸ .plain blank spaced
    | cons marker behind =>
        have semicolon : marker = ';' := by
          have := List.head?_dropWhile_not (· != ';') line
          rw [comment] at this
          simpa using this
        rw [comment, text, semicolon] at parts
        exact parts ▸ .commented blank spaced behind

instance (tokens : List (List Char)) (line : List Char) : Decidable (Writes tokens line) :=
  decidable_of_iff _ writes_iff.symm

theorem mentionsTool_iff (digit : Char) (text : List Char) :
    mentionsTool digit text = true ↔ ['T', digit] <:+: text := by
  induction text with
  | nil => simp [mentionsTool]
  | cons char rest ih =>
      have front : ['T', digit] <+: char :: rest ↔ char = 'T' ∧ rest.head? = some digit := by
        cases rest <;> simp [List.cons_prefix_cons, eq_comm]
      rw [List.infix_cons_iff, ← ih, front]
      simp [mentionsTool]

theorem mentionsTool_eq_any {digit : Char} (solid : isBlank digit = false) (text : List Char) :
    mentionsTool digit text = (words text).any (mentionsTool digit) := by
  induction text using words.induct with
  | case1 => rfl
  | case2 char white => simp [words, white, mentionsTool]
  | case3 char filled => simp [words, filled]
  | case4 char next rest white ih =>
      have other : char ≠ 'T' := by
        rintro rfl
        revert white
        decide
      rw [words, if_pos white, ← ih]
      simp [mentionsTool, other]
  | case5 char next rest filled white ih =>
      have apart : next ≠ digit := by
        rintro rfl
        simp [white] at solid
      rw [words, if_neg filled, if_pos white, List.any_cons, ← ih]
      simp [mentionsTool, apart]
  | case6 char next rest filled following ih =>
      obtain ⟨word, others, first⟩ := words_cons rest (by simpa using following)
      rw [words, if_neg filled, if_neg following, first, prepend, List.any_cons]
      rw [first, List.any_cons] at ih
      rw [mentionsTool, ih]
      simp [mentionsTool, Bool.or_assoc]

theorem toolMarker?_eq (text : List Char) :
    toolMarker? text =
      if ∃ word ∈ words text, "T0".toList <:+: word then some 0
      else if ∃ word ∈ words text, "T1".toList <:+: word then some 1 else none := by
  have marked {digit : Char} (solid : isBlank digit = false) :
      mentionsTool digit text = true ↔ ∃ word ∈ words text, ['T', digit] <:+: word := by
    rw [mentionsTool_eq_any solid, List.any_eq_true]
    simp only [mentionsTool_iff]
  have zero : mentionsTool '0' text = true ↔ ∃ word ∈ words text, "T0".toList <:+: word :=
    marked (by decide)
  have one : mentionsTool '1' text = true ↔ ∃ word ∈ words text, "T1".toList <:+: word :=
    marked (by decide)
  simp only [toolMarker?, zero, one]

theorem ofLine_of_writes_nil {line : List Char} (written : Writes [] line) (number : Int) :
    ofLine line number = ⟨"", [], none, number⟩ := by
  have read := writes_iff.mp written
  rw [ofLine_of_nil number read, toolMarker?_eq, read]
  rfl

theorem ofLine_of_writes_cons {code line : List Char} {rest : List (List Char)}
    (written : Writes (code :: rest) line) (number : Int) :
    ofLine line number =
      ⟨String.ofList (upper code),
        (Params.keys rest).map fun key => (key, Param.parse (Params.lastText rest key)),
        if ∃ token ∈ code :: rest, "T0".toList <:+: token then some 0
        else if ∃ token ∈ code :: rest, "T1".toList <:+: token then some 1 else none,
        number⟩ := by
  have read := writes_iff.mp written
  rw [ofLine_of_cons number read, toolMarker?_eq, read, Params.ofWords_eq]

def Respaced (left right : List Char) : Prop := ∃ tokens, Writes tokens left ∧ Writes tokens right

instance (left right : List Char) : Decidable (Respaced left right) :=
  decidable_of_iff (words (withoutComment right) = words (withoutComment left))
    (by simp [Respaced, writes_iff])

theorem ofLine_respaced {left right : List Char} (same : Respaced left right) (number : Int) :
    ofLine left number = ofLine right number := by
  obtain ⟨tokens, first, second⟩ := same
  cases tokens with
  | nil => rw [ofLine_of_writes_nil first, ofLine_of_writes_nil second]
  | cons code rest => rw [ofLine_of_writes_cons first, ofLine_of_writes_cons second]

theorem ofText_respaced {left right : List Char}
    (same : List.Forall₂ Respaced (lines left) (lines right)) : ofText left = ofText right := by
  rw [ofText_eq_ofLine, ofText_eq_ofLine]
  generalize lines left = first at same ⊢
  generalize lines right = second at same ⊢
  generalize (1 : Nat) = number
  induction same generalizing number with
  | nil => rfl
  | cons respaced _ ih =>
      rw [List.zipIdx_cons, List.zipIdx_cons, List.map_cons, List.map_cons, ih]
      exact congrArg (· :: _) (ofLine_respaced respaced number)

end Command

/-- What is read from a line are the tokens written on it, however they are set: their first one is
the code, the others are the parameters, and any of them may hold a tool marker. A line of blanks
with no more than a comment does nothing. So texts that differ in the setting of their lines only
are interpreted alike. -/
theorem reading_undoes_writing :
    (∀ (code : List Char) (rest : List (List Char)) (line : List Char) (number : Int),
      Writes (code :: rest) line →
      Command.ofLine line number =
        ⟨String.ofList (upper code),
          (Params.keys rest).map fun key => (key, Param.parse (Params.lastText rest key)),
          if ∃ token ∈ code :: rest, "T0".toList <:+: token then some 0
          else if ∃ token ∈ code :: rest, "T1".toList <:+: token then some 1 else none,
          number⟩) ∧
    (∀ (line : List Char) (number : Int), Writes [] line →
      (Command.ofLine line number).isNoop = true ∧ (Command.ofLine line number).tool = none) ∧
    (∀ (tokens : List (List Char)) (left right : List Char) (number : Int),
      Writes tokens left → Writes tokens right →
      Command.ofLine left number = Command.ofLine right number) ∧
    ∀ (settings : Settings) (left right : String),
      List.Forall₂ Command.Respaced (lines left.toList) (lines right.toList) →
      interpret settings left = interpret settings right := by
  refine ⟨?_, ?_, ?_, ?_⟩
  · intro code rest line number written
    exact Command.ofLine_of_writes_cons written number
  · intro line number written
    rw [Command.ofLine_of_writes_nil written]
    exact ⟨rfl, rfl⟩
  · intro tokens left right number first second
    exact Command.ofLine_respaced ⟨tokens, first, second⟩ number
  · intro settings left right same
    rw [interpret, interpret, Command.ofText_respaced same]

theorem reading_undoes_writing_of_repeated_keys :
    let tokens := ["g1".toList, "X1".toList, "Y2mm".toList, "x-3".toList, "zT1".toList]
    let spread := "\t g1\u00a0X1 \u3000Y2mm\tx-3  zT1 ;T0 X9"
    let tight := "g1 X1 Y2mm x-3 zT1"
    Writes tokens spread.toList ∧ Writes tokens tight.toList ∧ Writes [] " \t;T0".toList ∧
      Command.ofLine spread.toList 7 =
        ⟨"G1", [("x", Param.parse "-3".toList), ("y", Param.parse "2mm".toList),
          ("z", Param.parse "T1".toList)], some 1, 7⟩ ∧
      Command.ofLine spread.toList 7 = Command.ofLine tight.toList 7 ∧
      (Command.ofLine " \t;T0".toList 8).isNoop = true ∧
      interpret .standard spread = interpret .standard tight := by
  intro tokens spread tight
  have first : Writes tokens spread.toList := by decide +kernel
  have second : Writes tokens tight.toList := by decide +kernel
  have empty : Writes [] " \t;T0".toList := by decide +kernel
  have lineByLine : List.Forall₂ Command.Respaced (lines spread.toList) (lines tight.toList) := by
    decide +kernel
  obtain ⟨spelled, blank, respaced, interpreted⟩ := reading_undoes_writing
  refine ⟨first, second, empty, ?_, respaced tokens _ _ 7 first second, (blank _ 8 empty).1,
    interpreted .standard spread tight lineByLine⟩
  exact (spelled _ _ _ 7 first).trans (by decide +kernel)

end Toolpath
