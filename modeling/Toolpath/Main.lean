import Toolpath.CommandLine.Run

/-!
The program. A run is shown the files on the paths it may look at and the own home directory; the
web is out of reach, so every request fails.
-/

namespace Toolpath.CommandLine

def placeText (place : List String) : String := "/" ++ "/".intercalate place

def placesOf (workingDirectory : List String) (path : Path) : List (List String) :=
  let start := if path.root = .relative then workingDirectory else []
  path.names.foldl (fun places name =>
    let place := places.headD start
    (if name = ".." then place.dropLast else place ++ [name]) :: places) [start]

def pathsOf (home : String) (arguments : List String) : List Path :=
  match parse arguments with
  | .run options =>
    let source := (Path.parse (Source.text options.source).trimmed).expandHome home
    source.toOption.toList ++ ((options.preview.bind Given.value?).map Path.parse).toList
  | _ => []

def look (place : List String) : IO (Option Entry) := do
  try
    let found ← IO.FS.realPath (placeText place)
    if ← found.isDir then return some .directory
    return some (.file (← IO.FS.readBinFile found).toList)
  catch _ => return none

def showTree (workingDirectory : List String) (paths : List Path) : IO FileTree := do
  let mut tree : FileTree := ⟨[], workingDirectory⟩
  for place in (paths.flatMap (placesOf workingDirectory)).eraseDups do
    if let some entry ← look place then
      tree := tree.put place entry
  return tree

/-- Carries out what distinguishes a tree from the one before, oldest changes first. -/
def carryOut (before after : FileTree) : IO Unit := do
  for (place, entry) in after.entries.reverse do
    unless before.entry? place = some entry do
      match entry with
      | .directory => IO.FS.createDirAll (placeText place)
      | .file bytes => IO.FS.writeBinFile (placeText place) ⟨bytes.toArray⟩

end Toolpath.CommandLine

open Toolpath CommandLine in
def main (arguments : List String) : IO UInt32 := do
  let home := (← IO.getEnv "HOME").getD "/"
  let workingDirectory := (Path.parse (← IO.currentDir).toString).names
  let files ← showTree workingDirectory (pathsOf home arguments)
  let world : World := ⟨files, home, fun _ => .failed "the web is out of reach"⟩
  let outcome := run world (← IO.getEnv offsetVariable) arguments
  IO.print outcome.stdout
  IO.eprint outcome.stderr
  carryOut world.files outcome.files
  match outcome.ending with
  | .ok status => return UInt32.ofNat status.toNat
  | .error crash =>
    IO.eprintln crash.message
    return 1
