import Mathlib.Data.List.Basic
import Toolpath.Files.Tree

/-! What becomes of a tree when a file is written. With more directories a path leads where it led
before (`FileTree.locate_of_directories`). -/

namespace Toolpath.FileTree

variable {tree made written : FileTree} {path : Path} {place : List String} {bytes : List UInt8}

theorem lookup_filter_ne {other : List String} (apart : other ≠ place)
    (entries : List (List String × Entry)) :
    (entries.filter (·.1 ≠ place)).lookup other = entries.lookup other := by
  induction entries with
  | nil => rfl
  | cons entry rest ih =>
      obtain ⟨key, value⟩ := entry
      by_cases removed : key = place
      · have passed : (other == key) = false := by simpa [removed] using apart
        rw [List.filter_cons_of_neg (by simpa using removed), ih, List.lookup_cons, passed]
      · rw [List.filter_cons_of_pos (by simpa using removed), List.lookup_cons, List.lookup_cons, ih]

theorem entry?_put (filled : place ≠ []) (entry : Entry) (other : List String) :
    entry? (tree.put place entry) other =
      if other = place then some entry else tree.entry? other := by
  by_cases same : other = place
  · subst other
    simp [ entry?, put, filled]
  · have passed : (other == place) = false := by simpa using same
    rw [ entry?, put, List.lookup_cons, passed, lookup_filter_ne same, if_neg same, entry?]

variable (tree) in
theorem place_ne_nil (other : tree.entry? place ≠ some .directory) : place ≠ [] := fun root =>
  other (root ▸ rfl)

/-- A tree keeps all its entries and gains directories only. -/
structure Grows (tree made : FileTree) : Prop where
  workingDirectory : made.workingDirectory = tree.workingDirectory
  kept : ∀ {place entry}, tree.entry? place = some entry → made.entry? place = some entry
  file : ∀ {place bytes}, made.entry? place = some (.file bytes) →
    tree.entry? place = some (.file bytes)

namespace Grows

theorem refl (tree : FileTree) : tree.Grows tree := ⟨rfl, id, id⟩

theorem trans {grown : FileTree} (first : tree.Grows made) (second : made.Grows grown) :
    tree.Grows grown where
  workingDirectory := second.workingDirectory.trans first.workingDirectory
  kept found := second.kept (first.kept found)
  file found := first.file (second.file found)

theorem put (free : tree.entry? place = none) : tree.Grows (tree.put place .directory) := by
  have named : place ≠ [] := place_ne_nil tree (by simp [free])
  refine ⟨rfl, fun {other entry} found => ?_, fun {other content} found => ?_⟩
  · have apart : other ≠ place := by
      rintro rfl
      rw [free] at found
      contradiction
    rwa [entry?_put named, if_neg apart]
  · rw [entry?_put named] at found
    split at found
    · cases found
    · exact found

end Grows

section Directories

variable (tree)

theorem walk_of_directories {other : FileTree}
    (kept : ∀ {place}, tree.entry? place = some .directory → other.entry? place = some .directory)
    {start : List String} {names : List String} (reached : tree.walk start names = .ok place) :
    other.walk start names = .ok place := by
  induction names generalizing start with
  | nil => exact reached
  | cons name rest ih =>
      rw [walk] at reached ⊢
      split at reached
      · contradiction
      · contradiction
      · rename_i directory
        rw [kept directory]
        dsimp only
        split at reached
        · rename_i up
          rw [if_pos up]
          exact ih reached
        · rename_i down
          rw [if_neg down]
          split at reached
          · contradiction
          · rename_i short
            rw [if_neg short]
            exact ih reached

theorem locate_of_directories {other : FileTree}
    (working : other.workingDirectory = tree.workingDirectory)
    (kept : ∀ {place}, tree.entry? place = some .directory → other.entry? place = some .directory)
    (reached : tree.locate path = .ok place) : other.locate path = .ok place := by
  rw [locate] at reached ⊢
  split at reached
  · contradiction
  · rename_i short
    rw [if_neg short, working]
    exact walk_of_directories tree kept reached

end Directories

theorem withPlace_eq_ok_iff {α : Type} {operation : List String → Except FileFault α} {value : α} :
    tree.withPlace path operation = .ok value ↔
      Path.holdsNull path.text = false ∧
        ∃ place, tree.locate path = .ok place ∧ operation place = .ok value := by
  unfold withPlace
  cases Path.holdsNull path.text with
  | true => simp
  | false =>
      cases located : tree.locate path with
      | error fault => simp [Except.bind, Except.mapError]
      | ok place =>
          cases done : operation place <;> simp [Except.bind, Except.mapError, done]

theorem grows_makeDirectory (done : tree.makeDirectory path = .ok made) : tree.Grows made := by
  rw [makeDirectory, withPlace_eq_ok_iff] at done
  obtain ⟨-, place, -, done⟩ := done
  split at done
  · contradiction
  · rename_i free
    cases done
    exact .put free

theorem grows_ensureDirectory (tree : FileTree) (path : Path) :
    tree.Grows (tree.ensureDirectory path).2 := by
  unfold ensureDirectory
  split
  · rename_i done
    exact grows_makeDirectory done
  · exact .refl tree

theorem grows_ensureNames (tree : FileTree) (root : PathRoot) (names : List String) :
    tree.Grows (tree.ensureNames root names).2 := by
  induction names with
  | nil => exact grows_ensureDirectory tree _
  | cons name above ih =>
      rw [ensureNames]
      split
      · split
        · rename_i made parents
          rw [parents] at ih
          exact ih.trans (grows_ensureDirectory made _)
        · exact ih
      · exact grows_ensureDirectory tree _

theorem grows_ensureDirectories (tree : FileTree) (path : Path) :
    tree.Grows (tree.ensureDirectories path).2 :=
  grows_ensureNames tree path.root path.names.reverse

/-- A tree after a file was written at a path: the path leads to the file, every other file is what
it was before, and no directory is lost. -/
structure Receives (tree : FileTree) (path : Path) (bytes : List UInt8) (written : FileTree) :
    Prop where
  held : written.read path = .ok bytes
  kept : ∃ place, written.locate path = .ok place ∧ ∀ other ≠ place, ∀ content,
    written.entry? other = some (.file content) ↔ tree.entry? other = some (.file content)
  directories : ∀ other, tree.entry? other = some .directory →
    written.entry? other = some .directory

theorem receives_write (done : tree.write path bytes = .ok written) :
    tree.Receives path bytes written := by
  rw [write, withPlace_eq_ok_iff] at done
  obtain ⟨plain, place, located, done⟩ := done
  have free : tree.entry? place ≠ some .directory := by
    intro directory
    rw [directory] at done
    contradiction
  have outcome : written = tree.put place (.file bytes) := by
    split at done
    · contradiction
    · exact (Except.ok.inj done).symm
  subst outcome
  have named := place_ne_nil tree free
  have directories {other : List String} (directory : tree.entry? other = some .directory) :
      entry? (tree.put place (.file bytes)) other = some .directory := by
    have apart : other ≠ place := by
      rintro rfl
      exact free directory
    rwa [entry?_put named, if_neg apart]
  have reached : (tree.put place (.file bytes)).locate path = .ok place :=
    locate_of_directories tree rfl directories located
  refine ⟨?_, ⟨place, reached, fun other apart content => ?_⟩,
    fun _ directory => directories directory⟩
  · rw [read, withPlace_eq_ok_iff]
    refine ⟨plain, place, reached, ?_⟩
    rw [entry?_put named, if_pos rfl]
  · rw [entry?_put named, if_neg apart]

theorem Grows.receives (grows : tree.Grows made) (receives : made.Receives path bytes written) :
    tree.Receives path bytes written where
  held := receives.held
  kept := by
    obtain ⟨place, located, kept⟩ := receives.kept
    refine ⟨place, located, fun other apart content => (kept other apart content).trans ?_⟩
    exact ⟨grows.file, grows.kept⟩
  directories other directory := receives.directories other (grows.kept directory)

theorem receives_writeDeep (tree : FileTree) (path : Path) (bytes : List UInt8) :
    match tree.writeDeep path bytes with
    | (none, written) => tree.Receives path bytes written
    | (some _, left) => tree.Grows left := by
  have grows := grows_ensureDirectories tree path.parent
  rw [writeDeep]
  cases ensured : tree.ensureDirectories path.parent with
  | mk fault made =>
      rw [ensured] at grows
      cases fault with
      | some cause => exact grows
      | none =>
          cases done : made.write path bytes with
          | error cause =>
              simp only [done]
              exact grows
          | ok written =>
              simp only [done]
              exact grows.receives (receives_write done)

end Toolpath.FileTree
