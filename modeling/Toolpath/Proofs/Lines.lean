import Toolpath.Text.Line

/-!
What one more character in front of a text does to its lines (`lines_cons`), and what follows for
texts that are joined, cut, or written with other breaks.
-/

namespace Toolpath.Text

theorem lines_cons (char : Char) (rest : List Char) :
    lines (char :: rest) =
      if isLineBreak char then
        if char = '\r' ∧ rest.head? = some '\n' then lines rest else [] :: lines rest
      else prepend char (lines rest) := by
  by_cases pair : char = '\r' ∧ rest.head? = some '\n'
  · obtain ⟨rfl, feed⟩ := pair
    obtain ⟨next, after⟩ := List.head?_eq_some_iff.mp feed
    subst after
    have first : isLineBreak '\r' = true := by decide
    have second : isLineBreak '\n' = true := by decide
    simp [lines, first, second]
  · rw [lines.eq_3, if_neg pair]
    rintro after rfl rfl
    exact pair ⟨rfl, rfl⟩

theorem lines_cons_of_isLineBreak {char : Char} {rest : List Char}
    (breaks : isLineBreak char = true) (alone : char = '\r' → rest.head? ≠ some '\n') :
    lines (char :: rest) = [] :: lines rest := by
  rw [lines_cons, if_pos breaks, if_neg]
  rintro ⟨returns, feed⟩
  exact alone returns feed

theorem lines_cons_of_not_isLineBreak {char : Char} {rest : List Char}
    (plain : isLineBreak char = false) : lines (char :: rest) = prepend char (lines rest) := by
  rw [lines_cons, if_neg (by simp [plain])]

theorem lines_ne_nil {text : List Char} (filled : text ≠ []) : lines text ≠ [] := by
  induction text with
  | nil => contradiction
  | cons char rest ih =>
      rw [lines_cons]
      split
      · split
        · rename_i pair
          apply ih
          rintro rfl
          simp at pair
        · simp
      · cases lines rest <;> simp [prepend]

theorem lines_append_break (before : List Char) {char : Char} (rest : List Char)
    (breaks : isLineBreak char = true) (single : char ≠ '\r') :
    lines (before ++ char :: rest) = lines (before ++ [char]) ++ lines rest := by
  induction before with
  | nil =>
      have alone : ∀ after : List Char, char = '\r' → after.head? ≠ some '\n' :=
        fun _ returns => absurd returns single
      rw [List.nil_append, List.nil_append, lines_cons_of_isLineBreak breaks (alone rest),
        lines_cons_of_isLineBreak breaks (alone [])]
      rfl
  | cons first before ih =>
      have alike : (before ++ char :: rest).head? = (before ++ [char]).head? := by
        simp [List.head?_append]
      rw [List.cons_append, List.cons_append, lines_cons, lines_cons, alike, ih]
      split
      · split
        · rfl
        · rfl
      · exact prepend_append first _ (lines_ne_nil (by simp))

def Unbroken (text : List Char) : Prop := ∀ char ∈ text, isLineBreak char = false

instance (text : List Char) : Decidable (Unbroken text) := List.decidableBAll _ text

theorem unbroken_cons {char : Char} {text : List Char} :
    Unbroken (char :: text) ↔ isLineBreak char = false ∧ Unbroken text :=
  List.forall_mem_cons

theorem unbroken_iff_countP {text : List Char} : Unbroken text ↔ text.countP isLineBreak = 0 := by
  rw [List.countP_eq_zero, Unbroken]
  simp only [Bool.not_eq_true]

theorem Unbroken.not_mem {text : List Char} (plain : Unbroken text) {char : Char}
    (breaks : isLineBreak char = true) : char ∉ text := by
  intro member
  rw [plain char member] at breaks
  contradiction

theorem lines_withLineFeeds (text : List Char) : lines (withLineFeeds text) = lines text := by
  have feed : isLineBreak '\n' = true := by decide
  induction text using withLineFeeds.induct with
  | case1 => rfl
  | case2 rest ih =>
      rw [withLineFeeds, lines_cons_of_isLineBreak feed (by simp), ih, lines]
  | case3 char rest alone ih =>
      rw [withLineFeeds.eq_3 _ _ alone]
      by_cases returns : char = '\r'
      · subst char
        have last : rest.head? ≠ some '\n' := by
          intro followed
          obtain ⟨after, rfl⟩ := List.head?_eq_some_iff.mp followed
          exact alone after rfl rfl
        rw [if_pos rfl, lines_cons_of_isLineBreak feed (by simp), ih,
          lines_cons_of_isLineBreak (by decide) fun _ => last]
      · rw [if_neg returns, lines_cons, lines_cons, ih]
        simp [returns]

theorem tail_lines_append {text : List Char} (rest : List Char) (plain : Unbroken text) :
    (lines (text ++ rest)).tail = (lines rest).tail := by
  induction text with
  | nil => rfl
  | cons char text ih =>
      rw [unbroken_cons] at plain
      rw [List.cons_append, lines_cons_of_not_isLineBreak plain.1, ← ih plain.2]
      cases lines (text ++ rest) <;> rfl

theorem lines_unbroken_of_lines {line rest : List Char} {others : List (List Char)}
    (plain : Unbroken line) (following : lines rest = [] :: others) :
    lines (line ++ rest) = line :: others := by
  induction line with
  | nil => exact following
  | cons char line ih =>
      rw [unbroken_cons] at plain
      rw [List.cons_append, lines_cons_of_not_isLineBreak plain.1, ih plain.2, prepend]

theorem lines_unbroken {line : List Char} (filled : line ≠ []) (plain : Unbroken line) :
    lines line = [line] := by
  cases line with
  | nil => contradiction
  | cons char line =>
      rw [unbroken_cons] at plain
      rw [lines_cons_of_not_isLineBreak plain.1]
      cases line with
      | nil => rfl
      | cons next line => rw [lines_unbroken (by simp) plain.2, prepend]

theorem lines_unbroken_append {text : List Char} (rest : List Char) (plain : Unbroken text) :
    lines (text ++ '\n' :: rest) = text :: lines rest :=
  lines_unbroken_of_lines plain (lines_cons_of_isLineBreak (by decide) (by simp))

theorem lines_joined {texts : List (List Char)} (plain : ∀ text ∈ texts, Unbroken text) :
    lines (texts.flatMap (· ++ ['\n'])) = texts := by
  induction texts with
  | nil => rfl
  | cons text texts ih =>
      rw [List.forall_mem_cons] at plain
      rw [List.flatMap_cons, List.append_assoc, List.singleton_append,
        lines_unbroken_append _ plain.1, ih plain.2]

theorem length_lines_cons {char : Char} {rest : List Char} (filled : rest ≠ []) :
    (lines (char :: rest)).length = (lines rest).length +
      if isLineBreak char ∧ ¬(char = '\r' ∧ rest.head? = some '\n') then 1 else 0 := by
  have followed := lines_ne_nil filled
  rw [lines_cons]
  by_cases breaks : isLineBreak char = true
  · by_cases pair : char = '\r' ∧ rest.head? = some '\n'
    · rw [if_pos breaks, if_pos pair, if_neg (fun added => added.2 pair), Nat.add_zero]
    · rw [if_pos breaks, if_neg pair, if_pos ⟨breaks, pair⟩, List.length_cons]
  · cases following : lines rest with
    | nil => contradiction
    | cons first others => simp [breaks, prepend]

theorem length_lines_append {text rest : List Char} (filled : rest ≠ []) (single : '\r' ∉ text) :
    (lines (text ++ rest)).length = text.countP isLineBreak + (lines rest).length := by
  induction text with
  | nil => simp
  | cons char text ih =>
      rw [List.mem_cons, not_or] at single
      have other : char ≠ '\r' := fun same => single.1 same.symm
      rw [List.cons_append, length_lines_cons (by simp [filled]), ih single.2, List.countP_cons]
      simp only [other, false_and, not_false_eq_true, and_true]
      omega

end Toolpath.Text
