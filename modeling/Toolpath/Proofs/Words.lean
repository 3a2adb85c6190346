import Toolpath.Text.Blank
import Toolpath.Text.Case

/-! How a text falls apart at its blanks. -/

namespace Toolpath.Text

theorem words_cons {char : Char} (rest : List Char) (filled : isBlank char = false) :
    ∃ word others, words (char :: rest) = (char :: word) :: others := by
  cases rest with
  | nil => exact ⟨[], [], by simp [words, filled]⟩
  | cons next rest =>
      rw [words, if_neg (by simp [filled])]
      split
      · exact ⟨_, _, rfl⟩
      · cases words (next :: rest) <;> exact ⟨_, _, rfl⟩

theorem words_ne_nil {char : Char} (rest : List Char) (filled : isBlank char = false) :
    words (char :: rest) ≠ [] := by
  obtain ⟨word, others, first⟩ := words_cons rest filled
  rw [first]
  exact List.cons_ne_nil _ _

theorem words_blank_cons {blank : Char} (rest : List Char) (blanks : isBlank blank = true) :
    words (blank :: rest) = words rest := by
  cases rest <;> simp [words, blanks]

theorem words_append_blank (before : List Char) {blank : Char} (rest : List Char)
    (blanks : isBlank blank = true) :
    words (before ++ blank :: rest) = words before ++ words rest := by
  induction before with
  | nil => exact words_blank_cons rest blanks
  | cons char before ih =>
      cases before with
      | nil =>
          rw [List.nil_append, words_blank_cons rest blanks] at ih
          cases filled : isBlank char <;>
            simp [words, filled, blanks, words_blank_cons rest blanks]
      | cons next before =>
          rw [List.cons_append, List.cons_append, words, words, ← List.cons_append, ih]
          split
          · rfl
          · split
            · rfl
            · rename_i filled
              exact prepend_append char _ (words_ne_nil before (by simpa using filled))

theorem words_of_solid {word : List Char} (filled : word ≠ [])
    (solid : ∀ char ∈ word, isBlank char = false) : words word = [word] := by
  induction word with
  | nil => contradiction
  | cons char rest ih =>
      rw [List.forall_mem_cons] at solid
      cases rest with
      | nil => simp [words, solid.1]
      | cons next rest =>
          have following := (List.forall_mem_cons.mp solid.2).1
          rw [words, if_neg (by simp [solid.1]), if_neg (by simp [following]), ih (by simp) solid.2,
            prepend]

theorem words_spaced {first : List Char} {rest : List (List Char)}
    (solid : ∀ word ∈ first :: rest, word ≠ [] ∧ ∀ char ∈ word, isBlank char = false) :
    words (first ++ rest.flatMap (' ' :: ·)) = first :: rest := by
  induction rest generalizing first with
  | nil =>
      obtain ⟨filled, plain⟩ := solid first (by simp)
      simpa using words_of_solid filled plain
  | cons next rest ih =>
      rw [List.forall_mem_cons] at solid
      rw [List.flatMap_cons, List.cons_append, words_append_blank first _ (by decide),
        words_of_solid solid.1.1 solid.1.2, ih solid.2, List.singleton_append]

theorem ne_nil_of_mem_words {text word : List Char} (member : word ∈ words text) : word ≠ [] := by
  induction text generalizing word with
  | nil => simp [words] at member
  | cons char rest ih =>
      by_cases blank : isBlank char = true
      · rw [words_blank_cons rest blank] at member
        exact ih member
      · cases rest with
        | nil =>
            simp only [words, blank, if_false, Bool.false_eq_true, List.mem_singleton] at member
            simp [member]
        | cons next rest =>
            rw [words, if_neg blank] at member
            split at member
            · rcases List.mem_cons.mp member with rfl | later
              · simp
              · exact ih later
            · cases found : words (next :: rest) with
              | nil => simp_all [prepend]
              | cons first others =>
                  rw [found, prepend] at member
                  rcases List.mem_cons.mp member with rfl | later
                  · simp
                  · exact ih (found ▸ List.mem_cons_of_mem _ later)

theorem upperExpanding_ne_nil : ∀ entry ∈ upperExpanding, entry.2 ≠ [] := by decide

theorem upper_ne_nil {text : List Char} (filled : text ≠ []) : upper text ≠ [] := by
  cases text with
  | nil => contradiction
  | cons char rest =>
      rw [upper, List.flatMap_cons, ne_eq, List.append_eq_nil_iff, not_and]
      intro empty
      unfold CaseMap.image at empty
      split at empty
      · rename_i codes found
        rw [List.map_eq_nil_iff] at empty
        obtain ⟨before, after, table, _⟩ := List.lookup_eq_some_iff.mp found
        have listed : (char.toNat, codes) ∈ upperExpanding := by
          change (char.toNat, codes) ∈ upperMap.expanding
          simp [table]
        exact absurd empty (upperExpanding_ne_nil _ listed)
      · split at empty <;> contradiction

end Toolpath.Text
