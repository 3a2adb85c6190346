import Toolpath.Files.Tree
import Toolpath.Number.Binary
import Toolpath.Text.Case
import Toolpath.Text.Utf8

/-! Where the text of a program comes from: a file, or an address on the web. -/

namespace Toolpath

open Text

inductive Source where
  | text (value : String)
  | path (value : Path)
deriving DecidableEq

namespace Source

def toText : Source → String
  | text value => value
  | path value => value.text

def trimmed (source : Source) : String := String.ofList (strip source.toText.toList)

def schemes : List String := ["http://", "https://"]

def isRemote : Source → Bool
  | path _ => false
  | text value =>
    schemes.any fun scheme => scheme.toList.isPrefixOf (lower (strip value.toList))

end Source

structure Raised where
  name : String
  message : String
deriving DecidableEq

/-- What comes of a request. Whether a response counts as an answer is for the web session to
say. -/
inductive Reply where
  | accepted (text : String)
  | failed (message : String)
  | broken (cause : Raised)
deriving DecidableEq

namespace Reply

def ofResponse (refusal? : Int → Option String) (status : Int) (text : String) : Reply :=
  match refusal? status with
  | some reason => failed reason
  | none => accepted text

/-- The reply of a session that refuses every status from 400 on. -/
def response : Int → String → Reply :=
  ofResponse fun status => if status < 400 then none else some (toString status ++ " error")

end Reply

structure Request where
  address : String
  timeout : Double
deriving DecidableEq

structure World where
  files : FileTree
  homes : Homes
  reply : Request → Reply

inductive AcquisitionError where
  | fetch (address reason : String)
  | emptySource
  | unreadable (path : String) (cause : FileFault)
deriving DecidableEq

namespace AcquisitionError

def message : AcquisitionError → String
  | fetch address reason => "Unable to fetch " ++ address ++ ": " ++ reason
  | emptySource => "Toolpath source cannot be empty"
  | unreadable path cause =>
    "Unable to read " ++ path ++ ": " ++ (FileError.atPath cause path).message

end AcquisitionError

/-- Why loading a text ended without one. Only the first cause is an acquisition error; the others
pass through whoever handles those. -/
inductive LoadError where
  | acquisition (cause : AcquisitionError)
  | homeUnknown
  | nullCharacter
  | session (cause : Raised)
deriving DecidableEq

namespace LoadError

def message : LoadError → String
  | acquisition cause => cause.message
  | homeUnknown => "Could not determine home directory."
  | nullCharacter => FileError.nullCharacter.message
  | session cause => cause.message

end LoadError

namespace World

def fetch (world : World) (request : Request) : Except LoadError String :=
  match world.reply request with
  | .accepted text => .ok text
  | .failed message => .error (.acquisition (.fetch request.address message))
  | .broken cause => .error (.session cause)

def readText (world : World) (path : Path) : Except LoadError String :=
  match world.files.read path with
  | .ok bytes => .ok (String.ofList (withLineFeeds (decodeUtf8 bytes)))
  | .error (.atPath cause text) => .error (.acquisition (.unreadable text cause))
  | .error .nullCharacter => .error .nullCharacter

def loadFile (world : World) (source : Source) : Except LoadError String :=
  if source.trimmed = "" then .error (.acquisition .emptySource)
  else match (Path.parse source.trimmed).expandHome world.homes with
    | .ok path => world.readText path
    | .error .unknown => .error .homeUnknown
    | .error .nullCharacter => .error .nullCharacter

def request? (source : Source) (timeout : Double) : Option Request :=
  if source.isRemote then some ⟨source.trimmed, timeout⟩ else none

def load (world : World) (source : Source) (timeout : Double) : Except LoadError String :=
  match request? source timeout with
  | some request => world.fetch request
  | none => world.loadFile source

end World

end Toolpath
