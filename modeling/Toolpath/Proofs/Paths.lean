import Mathlib.Logic.Basic
import Toolpath.Files.Path

/-! Which characters of a text get into the path it is read as, and when a path asks for a home. -/

namespace Toolpath

theorem Text.flatten_prepend (char : Char) (words : List (List Char)) :
    (prepend char words).flatten = char :: words.flatten := by
  cases words <;> rfl

namespace Path

theorem flatten_pieces (text : List Char) : (pieces text).flatten = text.filter (· ≠ '/') := by
  induction text using pieces.induct with
  | case1 => rfl
  | case2 rest ih => simp [pieces, ih]
  | case3 char rest other ih =>
      have noSlash : char ≠ '/' := fun same => other same
      rw [pieces.eq_3 _ _ other, Text.flatten_prepend, ih]
      simp [noSlash]

theorem mem_pieces {char : Char} (noSlash : char ≠ '/') (text : List Char) :
    (∃ piece ∈ pieces text, char ∈ piece) ↔ char ∈ text := by
  rw [← List.mem_flatten, flatten_pieces]
  simp [noSlash]

theorem mem_intercalate {char : Char} (noSlash : char ≠ '/') (names : List (List Char)) :
    char ∈ ['/'].intercalate names ↔ ∃ name ∈ names, char ∈ name := by
  induction names with
  | nil => simp
  | cons first rest ih =>
      cases rest with
      | nil => simp
      | cons second others =>
          rw [List.intercalate_cons_cons, List.mem_append, List.mem_append, ih]
          simp [noSlash]

theorem holdsNull_iff (text : String) : holdsNull text = true ↔ Char.ofNat 0 ∈ text.toList := by
  rw [holdsNull, List.contains_iff_mem]

theorem holdsNull_text (path : Path) :
    holdsNull path.text = true ↔ ∃ name ∈ path.names, holdsNull name = true := by
  have root : Char.ofNat 0 ∉ path.root.text.toList := by cases path.root <;> decide
  have body : holdsNull (path.root.text ++ "/".intercalate path.names) = true ↔
      ∃ name ∈ path.names, holdsNull name = true := by
    have separator : "/".toList = ['/'] := rfl
    rw [holdsNull_iff, String.toList_append, List.mem_append, String.toList_intercalate, separator,
      mem_intercalate (by decide)]
    simp only [root, false_or, holdsNull_iff, List.mem_map, exists_exists_and_eq_and]
  rw [← body, text]
  split
  · rename_i empty
    rw [empty]
    decide
  · rfl

theorem holdsNull_parse (text : String) :
    (∃ name ∈ (parse text).names, holdsNull name = true) ↔ holdsNull text = true := by
  rw [holdsNull_iff, ← mem_pieces (by decide)]
  simp only [parse, List.mem_map, List.mem_filter, holdsNull_iff]
  constructor
  · rintro ⟨name, ⟨piece, ⟨member, named⟩, rfl⟩, held⟩
    exact ⟨piece, member, by simpa using held⟩
  · rintro ⟨piece, member, held⟩
    refine ⟨_, ⟨piece, ⟨member, ?_⟩, rfl⟩, by simpa using held⟩
    have filled : piece ≠ [] := List.ne_nil_of_mem held
    have noDot : piece ≠ ['.'] := by
      rintro rfl
      simp at held
    simp [isName, filled, noDot]

theorem mem_dropWhile_slash {char : Char} (noSlash : char ≠ '/') (text : List Char) :
    char ∈ text.dropWhile (· = '/') ↔ char ∈ text := by
  induction text with
  | nil => rfl
  | cons first rest ih =>
      rw [List.dropWhile_cons]
      split
      · rename_i slash
        rw [decide_eq_true_eq] at slash
        rw [ih, List.mem_cons, slash]
        simp [noSlash]
      · rfl

theorem holdsNull_ofHome (home : String) :
    (∃ name ∈ (ofHome home).names, holdsNull name = true) ↔ holdsNull home = true := by
  have kept : Char.ofNat 0 ∈ (home.toList.reverse.dropWhile (· = '/')).reverse ↔
      Char.ofNat 0 ∈ home.toList := by
    rw [List.mem_reverse, mem_dropWhile_slash (by decide), List.mem_reverse]
  rw [holdsNull_iff home, ← kept, ofHome]
  split
  · rename_i empty
    rw [List.isEmpty_iff] at empty
    simp [empty]
  · rw [holdsNull_parse, holdsNull_iff, String.toList_ofList]

def AsksHome (path : Path) (user : String) : Prop :=
  path.root = .relative ∧ path.names.head? = some ("~" ++ user)

variable {path : Path} {homes : Homes}

theorem expandHome_of_not_asksHome (settled : ∀ user, ¬path.AsksHome user) :
    path.expandHome homes = .ok path := by
  obtain ⟨root, names⟩ := path
  unfold expandHome
  split
  · rename_i name rest relative named
    dsimp only at relative named
    split
    · rename_i user tilde
      have asked : name = "~" ++ String.ofList user := by
        apply String.toList_injective
        simp [tilde]
      exact absurd ⟨relative, by simp [named, asked]⟩ (settled (String.ofList user))
    · rfl
  · rfl

theorem expandHome_of_asksHome {user : String} (asked : path.AsksHome user) :
    path.expandHome homes =
      if holdsNull user then .error .nullCharacter
      else match homes.find? user with
        | none => .error .unknown
        | some home =>
          if home.toList.head? = some '~' then .error .unknown
          else .ok { ofHome home with names := (ofHome home).names ++ path.names.tail } := by
  obtain ⟨root, names⟩ := path
  obtain ⟨relative, first⟩ := asked
  dsimp only at relative first
  obtain ⟨rest, rfl⟩ := List.head?_eq_some_iff.mp first
  subst relative
  have tilde : ("~" ++ user).toList = '~' :: user.toList := by simp
  have held : holdsNull ("~" ++ user) = holdsNull user := by
    simp [holdsNull, tilde]
  by_cases null : holdsNull user = true
  · simp [expandHome, tilde, held, null]
  · cases found : homes.find? user <;> simp [expandHome, tilde, held, null, found]

end Path

end Toolpath
