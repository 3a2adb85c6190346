import Mathlib.Data.List.TakeWhile
import Toolpath.Proofs.Account
import Toolpath.Proofs.Lines

/-! A comment is lost before anything is read (`sourceLines_append_comment`), but a line break in it
ends it, and what follows is a line of its own. -/

namespace Toolpath

open Text

theorem length_lines_comment (before : List Char) {comment rest : List Char} (filled : rest ≠ [])
    (single : '\r' ∉ comment) :
    (lines (before ++ ';' :: (comment ++ rest))).length =
      comment.countP isLineBreak + (lines (before ++ ';' :: rest)).length := by
  have semicolon : isLineBreak ';' = false := by decide
  induction before with
  | nil =>
      rw [List.nil_append, List.nil_append, length_lines_cons (by simp [filled]),
        length_lines_cons filled, length_lines_append filled single]
      simp [semicolon]
  | cons char before ih =>
      have alike : (before ++ ';' :: (comment ++ rest)).head? = (before ++ ';' :: rest).head? := by
        simp [List.head?_append]
      rw [List.cons_append, List.cons_append, length_lines_cons (by simp),
        length_lines_cons (by simp), alike, ih]
      omega

namespace Command

theorem withoutComment_idem (line : List Char) :
    withoutComment (withoutComment line) = withoutComment line :=
  List.takeWhile_idem

theorem withoutComment_eq_self {text : List Char} (plain : ';' ∉ text) :
    withoutComment text = text :=
  List.takeWhile_eq_self_iff.mpr fun _ member => bne_iff_ne.mpr (ne_of_mem_of_not_mem member plain)

theorem withoutComment_append {text : List Char} (plain : ';' ∉ text) (comment : List Char) :
    withoutComment (text ++ ';' :: comment) = text := by
  have uncommented : ∀ char ∈ text, (char != ';') = true := fun _ member =>
    bne_iff_ne.mpr (ne_of_mem_of_not_mem member plain)
  rw [withoutComment, List.takeWhile_append_of_pos uncommented]
  simp

/-- One more character in front keeps two texts alike. Their heads matter because a carriage return
looks at the next character. -/
theorem sourceLines_cons_congr {left right : List Char} (char : Char)
    (head : left.head? = right.head?) (same : sourceLines left = sourceLines right) :
    sourceLines (char :: left) = sourceLines (char :: right) := by
  unfold sourceLines at same ⊢
  rw [lines_cons, lines_cons, head]
  split
  · split
    · exact same
    · simpa using same
  · cases leftLines : lines left with
    | nil =>
        rw [leftLines, List.map_nil, eq_comm, List.map_eq_nil_iff] at same
        rw [same]
    | cons leftFirst leftRest =>
        cases rightLines : lines right with
        | nil => simp [leftLines, rightLines] at same
        | cons rightFirst rightRest =>
            simp only [leftLines, rightLines, List.map_cons, List.cons.injEq] at same
            simp only [prepend, List.map_cons, List.cons.injEq, same.2, and_true]
            rw [withoutComment, withoutComment, List.takeWhile_cons, List.takeWhile_cons]
            split
            · exact congrArg _ same.1
            · rfl

theorem sourceLines_append_congr {left right : List Char} (head : left.head? = right.head?)
    (same : sourceLines left = sourceLines right) (before : List Char) :
    sourceLines (before ++ left) = sourceLines (before ++ right) := by
  induction before with
  | nil => exact same
  | cons char before ih =>
      apply sourceLines_cons_congr char _ ih
      rw [List.head?_append, List.head?_append, head]

theorem sourceLines_semicolon (rest : List Char) :
    sourceLines (';' :: rest) = [] :: (lines rest).tail.map withoutComment := by
  rw [sourceLines, lines_cons_of_not_isLineBreak (by decide)]
  cases lines rest <;> simp [prepend, withoutComment]

theorem sourceLines_append_comment (before : List Char) {comment : List Char} (rest : List Char)
    (plain : Unbroken comment) :
    sourceLines (before ++ ';' :: (comment ++ rest)) = sourceLines (before ++ ';' :: rest) := by
  refine sourceLines_append_congr (by rfl) ?_ before
  rw [sourceLines_semicolon, sourceLines_semicolon, tail_lines_append rest plain]

theorem ofText_append_comment (before : List Char) {comment : List Char} (rest : List Char)
    (plain : Unbroken comment) :
    ofText (before ++ ';' :: (comment ++ rest)) = ofText (before ++ ';' :: rest) := by
  rw [ofText, sourceLines_append_comment before rest plain, ofText]

end Command

/-- Two comments, one of them without a line break, have the same effect on the layers, the state and
the account of the lines exactly when the other one holds no line break either. The carriage return
is set apart because at the end of a comment it is one break with the line feed. -/
theorem interpret_comment_iff (settings : Settings) (before left right after : String)
    (plain : Unbroken left.toList) (single : '\r' ∉ right.toList) :
    interpret settings (before ++ ";" ++ left ++ "\n" ++ after) =
        interpret settings (before ++ ";" ++ right ++ "\n" ++ after) ↔
      Unbroken right.toList := by
  have spelled (comment : String) : (before ++ ";" ++ comment ++ "\n" ++ after).toList =
      before.toList ++ ';' :: (comment.toList ++ '\n' :: after.toList) := by
    simp
  constructor
  · intro same
    have alsoSingle : '\r' ∉ left.toList := plain.not_mem (by decide)
    have counted := congrArg (·.diagnostics.lines) same
    simp only [lines_interpret, spelled] at counted
    rw [length_lines_comment _ (by simp) alsoSingle,
      length_lines_comment _ (by simp) single, unbroken_iff_countP.mp plain] at counted
    rw [unbroken_iff_countP]
    omega
  · intro alsoPlain
    rw [interpret, interpret, spelled, spelled, Command.ofText_append_comment _ _ plain,
      Command.ofText_append_comment _ _ alsoPlain]

theorem interpret_comment_of_motion :
    interpret .standard ("G1 X1 " ++ ";" ++ "" ++ "\n" ++ "G1 X2 E1\n") =
      interpret .standard ("G1 X1 " ++ ";" ++ "T1 G1 X5 ; E1" ++ "\n" ++ "G1 X2 E1\n") :=
  (interpret_comment_iff .standard "G1 X1 " "" "T1 G1 X5 ; E1" "G1 X2 E1\n" (by decide +kernel)
    (by decide +kernel)).mpr (by decide +kernel)

theorem interpret_of_separator :
    let comment := "a\u2028G1 X5 E1"
    '\n' ∉ comment.toList ∧ '\r' ∉ comment.toList ∧
      (interpret .standard ("" ++ "G1 X1 " ++ ";" ++ comment ++ "\n" ++ "")).layers ≠
        (interpret .standard ("" ++ "G1 X1 " ++ ";" ++ "" ++ "\n" ++ "")).layers := by
  decide +kernel

end Toolpath
