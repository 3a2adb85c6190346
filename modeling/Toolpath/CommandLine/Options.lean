import Toolpath.Number.Numeral
import Toolpath.Text.Quoted

/-!
The grammar of the arguments. Every word is classified before any is acted on; the words then take
effect from left to right, and asking for help ends the reading at once.
-/

namespace Toolpath.CommandLine

open Text

inductive Switch where
  | help
  | flat
  | json
  | preview
  | toolOffset
  | travelLayers
  | verbose
deriving DecidableEq

namespace Switch

def names : List (String × Switch) :=
  [("-h", help), ("--help", help), ("--flat", flat), ("--json", json), ("--preview", preview),
    ("--tool-offset", toolOffset), ("--travel-layers", travelLayers), ("-v", verbose),
    ("--verbose", verbose)]

def ofName? (name : String) : Option Switch := names.lookup name

def label (switch : Switch) : String :=
  "/".intercalate ((names.filter (·.2 = switch)).map (·.1))

def takesValue : Switch → Bool
  | preview => true
  | toolOffset => true
  | _ => false

end Switch

inductive UsageError where
  | ambiguous (word : String) (candidates : List String)
  | valueExpected (switch : Switch)
  | valueUnexpected (switch : Switch) (value : String)
  | notNumeric (switch : Switch) (value : String)
  | sourceMissing
  | unrecognized (words : List String)
deriving DecidableEq

namespace UsageError

def message : UsageError → String
  | ambiguous word candidates =>
    "ambiguous option: " ++ word ++ " could match " ++ ", ".intercalate candidates
  | valueExpected switch => "argument " ++ switch.label ++ ": expected one argument"
  | valueUnexpected switch value =>
    "argument " ++ switch.label ++ ": ignored explicit argument " ++ quoted value
  | notNumeric switch value =>
    "argument " ++ switch.label ++ ": invalid float value: " ++ quoted value
  | sourceMissing => "the following arguments are required: source"
  | unrecognized words => "unrecognized arguments: " ++ " ".intercalate words

end UsageError

/-- A word of the command line: the separator, an operand, or an option with the value written in
the same word. An option without a switch has a name that no option has. -/
inductive Word where
  | separator
  | operand (text : String)
  | option (switch : Switch) (isShort : Bool) (value : Option String)
  | unknown (text : String)
deriving DecidableEq

namespace Word

def splitValue (word : List Char) : List Char × Option (List Char) :=
  match word.dropWhile (· ≠ '=') with
  | [] => (word, none)
  | _ :: value => (word.takeWhile (· ≠ '='), some value)

def isNegativeNumber (word : List Char) : Bool :=
  match word with
  | '-' :: rest =>
    let body := match rest.reverse with
      | '\n' :: others => others.reverse
      | _ => rest
    match body.dropWhile isDigit with
    | [] => body ≠ []
    | '.' :: tail => tail ≠ [] && tail.all isDigit
    | _ => false
  | _ => false

/-- The options that a word may stand for: a long option by any beginning of its name, a short one
with its value attached. -/
def candidates (word : List Char) : List (String × Word) :=
  match word with
  | '-' :: '-' :: _ =>
    let (stem, value) := splitValue word
    (Switch.names.filter fun (name, _) => stem.isPrefixOf name.toList).map fun (name, switch) =>
      (name, option switch false (value.map String.ofList))
  | '-' :: letter :: rest =>
    (Switch.names.filter fun (name, _) => name.toList = ['-', letter]).map fun (name, switch) =>
      (name, option switch true (some (String.ofList rest)))
  | _ => []

def named? (word : List Char) : Option Word :=
  match Switch.ofName? (String.ofList word) with
  | some switch => some (option switch false none)
  | none =>
    match splitValue word with
    | (name, some value) => (Switch.ofName? (String.ofList name)).map fun switch =>
        option switch (name.length = 2) (some (String.ofList value))
    | (_, none) => none

/-- Classifies a word that is not the separator. -/
def classify (word : List Char) : Except UsageError Word :=
  let text := String.ofList word
  if word.head? ≠ some '-' || word = ['-'] then .ok (operand text)
  else match named? word with
    | some found => .ok found
    | none =>
      match candidates word with
      | [] =>
        .ok (if isNegativeNumber word || word.contains ' ' then operand text else unknown text)
      | [(_, found)] => .ok found
      | several => .error (.ambiguous text (several.map (·.1)))

def classifyAll : List String → Except UsageError (List Word)
  | [] => .ok []
  | "--" :: rest => .ok (separator :: rest.map operand)
  | word :: rest => do return (← classify word.toList) :: (← classifyAll rest)

end Word

/-- What an option is given: a value, or nothing by the separator, which counts for nothing even
as a value. An option that is given nothing is asked for all the same. -/
inductive Given (α : Type) where
  | value (value : α)
  | nothing
deriving DecidableEq

namespace Given

def ofText (text : String) : Given String := if text = "--" then nothing else value text

def value? {α : Type} : Given α → Option α
  | value given => some given
  | nothing => none

end Given

structure Options where
  source : String
  flat : Bool
  json : Bool
  preview : Option (Given String)
  toolOffset : Option (Given Double)
  travelLayers : Bool
  verbose : Bool
deriving DecidableEq

structure Reading where
  options : Options
  hasSource : Bool
  extras : List String
deriving DecidableEq

inductive Parsed where
  | run (options : Options)
  | help
  | error (cause : UsageError)
deriving DecidableEq

namespace Reading

def initial : Reading := ⟨⟨"", false, false, none, none, false, false⟩, false, []⟩

def addExtra (reading : Reading) (word : String) : Reading :=
  { reading with extras := reading.extras ++ [word] }

def setSource (reading : Reading) (source : String) : Reading :=
  { reading with options := { reading.options with source }, hasSource := true }

def turnOn (reading : Reading) (switch : Switch) : Reading :=
  let options := reading.options
  match switch with
  | .flat => { reading with options := { options with flat := true } }
  | .json => { reading with options := { options with json := true } }
  | .travelLayers => { reading with options := { options with travelLayers := true } }
  | .verbose => { reading with options := { options with verbose := true } }
  | _ => reading

def setOffset (reading : Reading) (offset : Given Double) : Reading :=
  { reading with options := { reading.options with toolOffset := some offset } }

def setPreview (reading : Reading) (target : Given String) : Reading :=
  { reading with options := { reading.options with preview := some target } }

def setValue (reading : Reading) (switch : Switch) (value : String) : Except UsageError Reading :=
  match switch with
  | .toolOffset =>
    match Given.ofText value with
    | .nothing => .ok (reading.setOffset .nothing)
    | .value text =>
      match Numeral.whole? text.toList with
      | some numeral => .ok (reading.setOffset (.value numeral.value))
      | none => .error (.notNumeric switch text)
  | .preview => .ok (reading.setPreview (.ofText value))
  | _ => .ok reading

def act (switches : List Switch) (reading : Reading) : Option Reading :=
  if switches.contains .help then none else some (switches.foldl turnOn reading)

def finish (reading : Reading) : Parsed :=
  if !reading.hasSource then .error .sourceMissing
  else if reading.extras ≠ [] then .error (.unrecognized reading.extras)
  else .run reading.options

end Reading

/-- The switches that a cluster of letters stands for, after the first one. A letter that is no
switch makes the rest of the cluster a value, which a switch without a value refuses. -/
def cluster (switch : Switch) : List Char → Except UsageError (List Switch)
  | [] => .ok [switch]
  | letter :: rest =>
    match Switch.ofName? (String.ofList ['-', letter]) with
    | some next => do return switch :: (← cluster next rest)
    | none => .error (.valueUnexpected switch (String.ofList (letter :: rest)))

def switchesOf (switch : Switch) (isShort : Bool) (value : String) :
    Except UsageError (List Switch) :=
  if isShort && value ≠ "" then cluster switch value.toList
  else .error (.valueUnexpected switch value)

/-- What the next word may be: any, a separator that belongs to the source before it, or the value
of an option. -/
inductive Expectation where
  | any
  | separator
  | value (switch : Switch)
deriving DecidableEq

def readWords : List Word → Expectation → Reading → Parsed
  | [], .value switch, _ => .error (.valueExpected switch)
  | [], _, reading => reading.finish
  | .operand text :: rest, .value switch, reading =>
    match reading.setValue switch text with
    | .ok next => readWords rest .any next
    | .error cause => .error cause
  | _ :: _, .value switch, _ => .error (.valueExpected switch)
  | .separator :: rest, expectation, reading =>
    let placeless := reading.hasSource && expectation ≠ .separator
    readWords rest .any (if placeless then reading.addExtra "--" else reading)
  | .operand text :: rest, _, reading =>
    if reading.hasSource then readWords rest .any (reading.addExtra text)
    else readWords rest .separator (reading.setSource text)
  | .unknown text :: rest, _, reading => readWords rest .any (reading.addExtra text)
  | .option switch _ none :: rest, _, reading =>
    if switch.takesValue then readWords rest (.value switch) reading
    else match reading.act [switch] with
      | some next => readWords rest .any next
      | none => .help
  | .option switch isShort (some value) :: rest, _, reading =>
    if switch.takesValue then
      match reading.setValue switch value with
      | .ok next => readWords rest .any next
      | .error cause => .error cause
    else match switchesOf switch isShort value with
      | .error cause => .error cause
      | .ok switches =>
        match reading.act switches with
        | some next => readWords rest .any next
        | none => .help

def parse (arguments : List String) : Parsed :=
  match Word.classifyAll arguments with
  | .ok words => readWords words .any .initial
  | .error cause => .error cause

end Toolpath.CommandLine
