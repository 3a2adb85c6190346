import Toolpath.Text.Line

/-!
Paths: a root and the names below it. Empty names and single dots are dropped; double dots are kept,
for what they lead to depends on the tree.
-/

namespace Toolpath

inductive PathRoot where
  | relative
  | slash
  | doubleSlash
deriving DecidableEq

namespace PathRoot

def text : PathRoot → String
  | relative => ""
  | slash => "/"
  | doubleSlash => "//"

end PathRoot

structure Path where
  root : PathRoot
  names : List String
deriving DecidableEq

inductive HomeError where
  | unknown
  | nullCharacter
deriving DecidableEq

structure Homes where
  own : String
  ofUser? : String → Option String

namespace Homes

def only (own : String) : Homes := ⟨own, fun _ => none⟩

instance : Coe String Homes := ⟨only⟩

def find? (homes : Homes) (user : String) : Option String :=
  if user = "" then some homes.own else homes.ofUser? user

end Homes

namespace Path

def pieces : List Char → List (List Char)
  | [] => [[]]
  | '/' :: rest => [] :: pieces rest
  | char :: rest => Text.prepend char (pieces rest)

def rootOf : List Char → PathRoot
  | '/' :: '/' :: '/' :: _ => .slash
  | '/' :: '/' :: _ => .doubleSlash
  | '/' :: _ => .slash
  | _ => .relative

def isName (piece : List Char) : Bool := piece ≠ [] && piece ≠ ['.']

def parse (text : String) : Path :=
  ⟨rootOf text.toList, ((pieces text.toList).filter isName).map String.ofList⟩

def text (path : Path) : String :=
  let body := path.root.text ++ "/".intercalate path.names
  if body = "" then "." else body

def parent (path : Path) : Path := { path with names := path.names.dropLast }

def ofHome (home : String) : Path :=
  let trimmed := (home.toList.reverse.dropWhile (· = '/')).reverse
  if trimmed.isEmpty then ⟨.slash, []⟩ else parse (String.ofList trimmed)

def holdsNull (text : String) : Bool := text.toList.contains (Char.ofNat 0)

/-- Replaces a leading tilde, with the name of a user or alone, by a home directory. One that begins
with a tilde itself counts as unknown. -/
def expandHome (homes : Homes) (path : Path) : Except HomeError Path :=
  match path.root, path.names with
  | .relative, name :: rest =>
    match name.toList with
    | '~' :: user =>
      if holdsNull name then .error .nullCharacter
      else match homes.find? (String.ofList user) with
        | none => .error .unknown
        | some home =>
          if home.toList.head? = some '~' then .error .unknown
          else .ok { ofHome home with names := (ofHome home).names ++ rest }
    | _ => .ok path
  | _, _ => .ok path

end Path

end Toolpath
