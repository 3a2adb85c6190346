import Toolpath.Number.Decimal
import Toolpath.Text.Blank
import Toolpath.Text.Digit

/-! Reading numerals, either the longest one at the front of a text or one that is the whole text.
Digits of every script count by their value. -/

namespace Toolpath

inductive Numeral where
  | nan
  | infinity (negative : Bool)
  | decimal (value : Decimal)
deriving DecidableEq

namespace Numeral

open Text

def value {format : Format} : Numeral → Binary format
  | nan => .nan
  | infinity negative => .infinite negative
  | decimal value => .ofDecimal value

def takeSign : List Char → Bool × List Char
  | '-' :: rest => (true, rest)
  | '+' :: rest => (false, rest)
  | text => (false, text)

def takeDigits : List Char → List Nat × List Char
  | [] => ([], [])
  | char :: rest =>
    match digit? char with
    | some digit => (digit :: (takeDigits rest).1, (takeDigits rest).2)
    | none => ([], char :: rest)

def ofDigits (digits : List Nat) : Nat := digits.foldl (fun total digit => total * 10 + digit) 0

/-- Reads digits with an optional point among or around them: all digits, and how many follow the
point. At least one digit is needed. -/
def takeMantissa? (text : List Char) : Option ((List Nat × Nat) × List Char) :=
  let (whole, rest) := takeDigits text
  match rest with
  | '.' :: tail =>
    let (fraction, rest') := takeDigits tail
    if whole.isEmpty && fraction.isEmpty then none
    else some ((whole ++ fraction, fraction.length), rest')
  | _ => if whole.isEmpty then none else some ((whole, 0), rest)

/-- Reads an exponent; a letter without digits after it is left unread. -/
def takeExponent (text : List Char) : Int × List Char :=
  match text with
  | letter :: tail =>
    if letter = 'e' || letter = 'E' then
      let (negative, digitsText) := takeSign tail
      let (digits, rest) := takeDigits digitsText
      if digits.isEmpty then (0, text)
      else (if negative then -(ofDigits digits : Int) else ofDigits digits, rest)
    else (0, text)
  | [] => (0, [])

def takeDecimal? (negative : Bool) (text : List Char) : Option (Numeral × List Char) :=
  match takeMantissa? text with
  | some ((digits, places), rest) =>
    let (exponent, rest') := takeExponent rest
    some (decimal ⟨negative, ofDigits digits, exponent - places⟩, rest')
  | none => none

/-- Reads the longest numeral at the front of a text. -/
def leading? (text : List Char) : Option (Numeral × List Char) :=
  let (negative, unsigned) := takeSign text
  match "Infinity".toList.isPrefixOf? unsigned with
  | some rest => some (infinity negative, rest)
  | none => takeDecimal? negative unsigned

/-- Removes underscores that stand between two digits, and refuses any other. -/
def dropSeparators? (afterDigit : Bool) : List Char → Option (List Char)
  | [] => some []
  | ['_'] => none
  | '_' :: next :: rest =>
    if afterDigit && isDigit next then (dropSeparators? true rest).map (next :: ·) else none
  | char :: rest => (dropSeparators? (isDigit char) rest).map (char :: ·)

/-- Blanks that may surround a numeral: the information separators may not. -/
def isMargin (char : Char) : Bool := isBlank char && !(0x1C ≤ char.toNat && char.toNat ≤ 0x1F)

def whole? (text : List Char) : Option Numeral :=
  match dropSeparators? false (trim isMargin text) with
  | none => none
  | some plain =>
    let (negative, unsigned) := takeSign plain
    let word := String.ofList (unsigned.map Char.toLower)
    if word = "inf" || word = "infinity" then some (infinity negative)
    else if word = "nan" then some nan
    else match takeDecimal? negative unsigned with
      | some (numeral, []) => some numeral
      | _ => none

end Numeral

end Toolpath
