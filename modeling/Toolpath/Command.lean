import Toolpath.Axis
import Toolpath.Number.Numeral
import Toolpath.Text.Case
import Toolpath.Text.Line

/-!
A line of a program is cut at its first semicolon and split into words. The first one is the code;
every other is a parameter, keyed by its first character. A tool marker may stand anywhere.
-/

namespace Toolpath

open Text

structure Param where
  raw : String
  value : Double
  valid : Bool
deriving DecidableEq

namespace Param

/-- Reads the longest numeral after leading blanks; what follows it does not matter. Without one the
value is not a number. -/
def parse (text : List Char) : Param :=
  match Numeral.leading? (text.dropWhile isBlank) with
  | some (numeral, _) => ⟨String.ofList text, numeral.value, true⟩
  | none => ⟨String.ofList text, .nan, false⟩

end Param

abbrev Params := List (String × Param)

namespace Params

def put (key : String) (param : Param) : Params → Params
  | [] => [(key, param)]
  | (other, old) :: rest =>
    if other = key then (key, param) :: rest else (other, old) :: put key param rest

/-- Sets the parameter that a word stands for. -/
def putWord (params : Params) : List Char → Params
  | [] => params
  | letter :: text => params.put (String.ofList (lower [letter])) (Param.parse text)

def ofWords (words : List (List Char)) : Params := words.foldl putWord []

end Params

/-- A code with its parameters, the tool it selects, and the number of its line. A line without
words has an empty code. -/
structure Command where
  code : String
  params : Params
  tool : Option Int
  line : Int
deriving DecidableEq

namespace Command

def isNoop (command : Command) : Bool := command.code = ""

def malformed (command : Command) : Params := command.params.filter fun entry => !entry.2.valid

def has (command : Command) (key : String) : Bool := (command.params.lookup key).isSome

def value? (command : Command) (key : String) : Option Double :=
  (command.params.lookup key).map Param.value

def withoutComment (line : List Char) : List Char := line.takeWhile (· != ';')

def mentionsTool (digit : Char) : List Char → Bool
  | [] => false
  | char :: rest => (char = 'T' && rest.head? = some digit) || mentionsTool digit rest

/-- The tool a line selects: tool 0 wins over tool 1. -/
def toolMarker? (text : List Char) : Option Int :=
  if mentionsTool '0' text then some 0
  else if mentionsTool '1' text then some 1
  else none

def ofLine (line : List Char) (number : Int) : Command :=
  let text := withoutComment line
  match words text with
  | [] => ⟨"", [], toolMarker? text, number⟩
  | code :: rest =>
    ⟨String.ofList (upper code), Params.ofWords rest, toolMarker? text, number⟩

def sourceLines (text : List Char) : List (List Char) := (lines text).map withoutComment

def ofText (text : List Char) : List Command :=
  ((sourceLines text).zipIdx 1).map fun (line, number) => ofLine line number

end Command

end Toolpath
