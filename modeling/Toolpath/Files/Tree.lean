import Toolpath.Files.Path
import Toolpath.Text.Quoted

/-! A tree of files and directories. Each operation walks its path name by name, and the first fault
that the walk meets is the one reported. -/

namespace Toolpath

open Text

inductive FileFault where
  | missing
  | alreadyThere
  | notDirectory
  | isDirectory
  | nameTooLong
deriving DecidableEq

namespace FileFault

def text : FileFault → String
  | missing => "[Errno 2] No such file or directory"
  | alreadyThere => "[Errno 17] File exists"
  | notDirectory => "[Errno 20] Not a directory"
  | isDirectory => "[Errno 21] Is a directory"
  | nameTooLong => "[Errno 36] File name too long"

end FileFault

inductive FileError where
  | atPath (fault : FileFault) (path : String)
  | nullCharacter
deriving DecidableEq

namespace FileError

def message : FileError → String
  | atPath fault path => fault.text ++ ": " ++ quoted path
  | nullCharacter => "embedded null byte"

end FileError

inductive Entry where
  | directory
  | file (bytes : List UInt8)
deriving DecidableEq

structure FileTree where
  entries : List (List String × Entry)
  workingDirectory : List String
deriving DecidableEq

namespace FileTree

def entry? (tree : FileTree) (place : List String) : Option Entry :=
  if place = [] then some .directory else tree.entries.lookup place

def put (tree : FileTree) (place : List String) (entry : Entry) : FileTree :=
  { tree with entries := (place, entry) :: tree.entries.filter (·.1 ≠ place) }

def longestName : Nat := 255

def longestPath : Nat := 4095

/-- Walks from a place along some names. All but the last name have to lead to directories; the
place reached may be free. -/
def walk (tree : FileTree) (place : List String) : List String → Except FileFault (List String)
  | [] => .ok place
  | name :: rest =>
    match tree.entry? place with
    | none => .error .missing
    | some (.file _) => .error .notDirectory
    | some .directory =>
      if name = ".." then walk tree place.dropLast rest
      else if longestName < name.utf8ByteSize then .error .nameTooLong
      else walk tree (place ++ [name]) rest

def locate (tree : FileTree) (path : Path) : Except FileFault (List String) :=
  if longestPath < path.text.utf8ByteSize then .error .nameTooLong
  else tree.walk (if path.root = .relative then tree.workingDirectory else []) path.names

/-- Runs an operation at the place of a path, and reports its faults with the path. -/
def withPlace {α : Type} (tree : FileTree) (path : Path)
    (operation : List String → Except FileFault α) : Except FileError α :=
  if Path.holdsNull path.text then .error .nullCharacter
  else ((tree.locate path).bind operation).mapError (.atPath · path.text)

def read (tree : FileTree) (path : Path) : Except FileError (List UInt8) :=
  tree.withPlace path fun place =>
    match tree.entry? place with
    | some (.file bytes) => .ok bytes
    | some .directory => .error .isDirectory
    | none => .error .missing

def write (tree : FileTree) (path : Path) (bytes : List UInt8) : Except FileError FileTree :=
  tree.withPlace path fun place =>
    match tree.entry? place with
    | some .directory => .error .isDirectory
    | _ => .ok (tree.put place (.file bytes))

def makeDirectory (tree : FileTree) (path : Path) : Except FileError FileTree :=
  tree.withPlace path fun place =>
    match tree.entry? place with
    | some _ => .error .alreadyThere
    | none => .ok (tree.put place .directory)

def isDirectory (tree : FileTree) (path : Path) : Bool :=
  match tree.locate path with
  | .ok place => tree.entry? place = some .directory
  | .error _ => false

def ensureDirectory (tree : FileTree) (path : Path) : Option FileError × FileTree :=
  match tree.makeDirectory path with
  | .ok made => (none, made)
  | .error cause =>
    (if cause ≠ .nullCharacter && tree.isDirectory path then none else some cause, tree)

/-- Makes the directory with the given names, the last one first, and those above it that are
missing. Directories made before a failure stay. -/
def ensureNames (tree : FileTree) (root : PathRoot) : List String → Option FileError × FileTree
  | [] => tree.ensureDirectory ⟨root, []⟩
  | name :: above =>
    let path : Path := ⟨root, (name :: above).reverse⟩
    match tree.makeDirectory path with
    | .error (.atPath .missing _) =>
      match ensureNames tree root above with
      | (none, made) => made.ensureDirectory path
      | failed => failed
    | _ => tree.ensureDirectory path

def ensureDirectories (tree : FileTree) (path : Path) : Option FileError × FileTree :=
  tree.ensureNames path.root path.names.reverse

def writeDeep (tree : FileTree) (path : Path) (bytes : List UInt8) : Option FileError × FileTree :=
  match tree.ensureDirectories path.parent with
  | (none, made) =>
    match made.write path bytes with
    | .ok written => (none, written)
    | .error cause => (some cause, made)
  | failed => failed

end FileTree

end Toolpath
