import Toolpath.Text.Range

/-! Blank characters, and cutting a text at them. -/

namespace Toolpath.Text

/-- White space together with the four information separators. -/
def blankRanges : List CodeRange :=
  [⟨0x09, 0x0D⟩, ⟨0x1C, 0x20⟩, ⟨0x85, 0x85⟩, ⟨0xA0, 0xA0⟩, ⟨0x1680, 0x1680⟩, ⟨0x2000, 0x200A⟩,
    ⟨0x2028, 0x2029⟩, ⟨0x202F, 0x202F⟩, ⟨0x205F, 0x205F⟩, ⟨0x3000, 0x3000⟩]

def isBlank (char : Char) : Bool := within blankRanges char

def prepend (char : Char) : List (List Char) → List (List Char)
  | [] => [[char]]
  | first :: rest => (char :: first) :: rest

theorem prepend_append (char : Char) {first : List (List Char)} (rest : List (List Char))
    (filled : first ≠ []) : prepend char (first ++ rest) = prepend char first ++ rest := by
  cases first with
  | nil => contradiction
  | cons => rfl

def words : List Char → List (List Char)
  | [] => []
  | [char] => if isBlank char then [] else [[char]]
  | char :: next :: rest =>
    if isBlank char then words (next :: rest)
    else if isBlank next then [char] :: words (next :: rest)
    else prepend char (words (next :: rest))

def trim (drops : Char → Bool) (text : List Char) : List Char :=
  ((text.dropWhile drops).reverse.dropWhile drops).reverse

def strip (text : List Char) : List Char := trim isBlank text

end Toolpath.Text
