import Toolpath.Text.Blank

/-!
Line breaks. A carriage return and the line feed after it are one break, and a break at the very end
of a text opens no further line.
-/

namespace Toolpath.Text

/-- Line feed, carriage return, vertical tab, form feed, three separators, next line, and the line
and paragraph separators. -/
def lineBreakRanges : List CodeRange :=
  [⟨0x0A, 0x0D⟩, ⟨0x1C, 0x1E⟩, ⟨0x85, 0x85⟩, ⟨0x2028, 0x2029⟩]

def isLineBreak (char : Char) : Bool := within lineBreakRanges char

def lines : List Char → List (List Char)
  | [] => []
  | '\r' :: '\n' :: rest => [] :: lines rest
  | char :: rest => if isLineBreak char then [] :: lines rest else prepend char (lines rest)

/-- The text with each carriage return, alone or before a line feed, written as one line feed. -/
def withLineFeeds : List Char → List Char
  | [] => []
  | '\r' :: '\n' :: rest => '\n' :: withLineFeeds rest
  | char :: rest => (if char = '\r' then '\n' else char) :: withLineFeeds rest

end Toolpath.Text
