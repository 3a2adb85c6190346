import Toolpath.Number.Numeral
import Toolpath.Number.Quantity
import Toolpath.Text.Quoted

/-! Settings of an interpretation, and the store that keeps the ones in force. They are built from
loosely typed arguments, so building may fail. -/

namespace Toolpath

open Text

structure Settings where
  splitLayers : Bool
  toolOffset : Double
  travelStartsLayer : Bool
  offset_finite : toolOffset.isFinite = true
deriving DecidableEq

inductive SettingsError where
  | notNumeric (text : String)
  | wrongType (typeName : String)
  | conversion (cause : ConversionError)
  | offsetNotFinite
  | environmentNotNumeric (text : String)
deriving DecidableEq

def offsetVariable : String := "TOOLPATH_LAYERS_TOOL_X_OFFSET"

namespace SettingsError

def message : SettingsError → String
  | notNumeric text => "could not convert string to float: " ++ quoted text
  | wrongType typeName =>
    "float() argument must be a string or a real number, not '" ++ typeName ++ "'"
  | conversion cause => cause.message
  | offsetNotFinite => "Secondary tool offset must be a finite number"
  | environmentNotNumeric text => offsetVariable ++ " must be numeric, got " ++ quoted text

end SettingsError

inductive EnvironmentError where
  | nullCharacter
deriving DecidableEq

namespace EnvironmentError

def message : EnvironmentError → String
  | nullCharacter => "embedded null byte"

end EnvironmentError

/-- A loosely typed argument. Of a list or a table only matters whether it is empty. -/
inductive Argument where
  | null
  | flag (value : Bool)
  | number (value : Quantity)
  | text (value : String)
  | list (isEmpty : Bool)
  | table (isEmpty : Bool)
deriving DecidableEq

namespace Argument

def truth : Argument → Bool
  | null => false
  | flag value => value
  | number (.whole value) => value ≠ 0
  | number (.real value) => !value.equals (.zero false)
  | text value => value ≠ ""
  | list isEmpty => !isEmpty
  | table isEmpty => !isEmpty

def toDouble : Argument → Except SettingsError Double
  | null => .error (.wrongType "NoneType")
  | flag value => .ok (if value then 1 else 0)
  | number value => value.toDouble.mapError .conversion
  | text value =>
    match Numeral.whole? value.toList with
    | some numeral => .ok numeral.value
    | none => .error (.notNumeric value)
  | list _ => .error (.wrongType "list")
  | table _ => .error (.wrongType "dict")

end Argument

structure Arguments where
  splitLayers : Option Argument
  toolOffset : Option Argument
  travelStartsLayer : Option Argument
deriving DecidableEq

namespace Arguments

def none : Arguments := ⟨.none, .none, .none⟩

end Arguments

namespace Settings

def standardOffset : Double := 22

def standard : Settings := ⟨true, standardOffset, false, by decide +kernel⟩

def make (splitLayers : Bool) (toolOffset : Double) (travelStartsLayer : Bool) :
    Except SettingsError Settings :=
  if finite : toolOffset.isFinite = true then
    .ok ⟨splitLayers, toolOffset, travelStartsLayer, finite⟩
  else .error .offsetNotFinite

def ofArguments (arguments : Arguments) : Except SettingsError Settings := do
  let offset ← match arguments.toolOffset with
    | some argument => argument.toDouble
    | none => .ok standardOffset
  make ((arguments.splitLayers.map Argument.truth).getD true) offset
    ((arguments.travelStartsLayer.map Argument.truth).getD false)

def environmentOffset (environment? : Option String) : Except SettingsError Double :=
  match environment? with
  | none => .ok standardOffset
  | some text =>
    if (strip text.toList).isEmpty then .ok standardOffset
    else match Numeral.whole? text.toList with
      | some numeral => .ok numeral.value
      | none => .error (.environmentNotNumeric text)

def given (argument? : Option Argument) : Option Argument := argument?.filter (· ≠ .null)

/-- Settings from arguments and the environment. Null stands for an argument that is not given, and
the environment is asked for the offset only in that case. -/
def resolve (environment? : Option String) (arguments : Arguments) :
    Except SettingsError Settings := do
  let offset ← match given arguments.toolOffset with
    | some argument => argument.toDouble
    | none => environmentOffset environment?
  make (((given arguments.splitLayers).map Argument.truth).getD true) offset
    (((given arguments.travelStartsLayer).map Argument.truth).getD false)

structure Store where
  environment? : Option String
  cached? : Option Settings
deriving DecidableEq

namespace Store

def empty : Store := ⟨none, none⟩

def setEnvironment (store : Store) (text : String) : Except EnvironmentError Store :=
  if text.toList.contains '\x00' then .error .nullCharacter
  else .ok { store with environment? := some text }

def unsetEnvironment (store : Store) : Store := { store with environment? := none }

/-- Builds settings anew and puts them in force; a failure leaves the store as it was. -/
def configure (store : Store) (arguments : Arguments) : Except SettingsError Settings × Store :=
  match resolve store.environment? arguments with
  | .ok settings => (.ok settings, { store with cached? := some settings })
  | .error cause => (.error cause, store)

def get (store : Store) : Except SettingsError Settings × Store :=
  match store.cached? with
  | some settings => (.ok settings, store)
  | none => store.configure .none

end Store

end Settings

end Toolpath
