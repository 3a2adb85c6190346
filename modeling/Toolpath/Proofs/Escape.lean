import Toolpath.Proofs.Acquisition
import Toolpath.Proofs.Paths

/-!
Which failures to load a program pass through a loader: those of a source for which no file can even
be sought.
-/

namespace Toolpath

open Toolpath.Path (holdsNull)

namespace Path

theorem AsksHome.eq {path : Path} {user other : String} (asked : path.AsksHome user)
    (again : path.AsksHome other) : user = other := by
  have same : "~" ++ user = "~" ++ other := Option.some.inj (asked.2.symm.trans again.2)
  have tails := congrArg (·.toList.tail) same
  simp only [String.toList_append] at tails
  exact String.toList_injective tails

theorem not_asksHome_empty (user : String) : ¬(parse "").AsksHome user := by
  rintro ⟨relative, first⟩
  have nameless : (parse "").names = [] := by decide
  rw [nameless] at first
  contradiction

end Path

namespace Homes

def Offers (homes : Homes) (user : String) : Prop :=
  ∃ home, homes.find? user = some home ∧ home.toList.head? ≠ some '~' ∧ holdsNull home = false

end Homes

namespace FileTree

theorem read_eq_nullCharacter_iff (tree : FileTree) (path : Path) :
    tree.read path = .error .nullCharacter ↔ holdsNull path.text = true := by
  unfold read withPlace
  split
  · rename_i held
    simp [held]
  · rename_i free
    refine iff_of_false (fun refused => ?_) free
    cases found : (tree.locate path).bind _ with
    | ok bytes =>
        rw [found] at refused
        contradiction
    | error fault =>
        rw [found] at refused
        have other := Except.error.inj refused
        contradiction

end FileTree

def Settles (result : Except LoadError String) : Prop :=
  (∃ text, result = .ok text) ∨ ∃ cause, result = .error (.acquisition cause)

@[simp] theorem settles_ok (text : String) : Settles (.ok text) := .inl ⟨text, rfl⟩

@[simp] theorem settles_acquisition (cause : AcquisitionError) :
    Settles (.error (.acquisition cause)) := .inr ⟨cause, rfl⟩

@[simp] theorem not_settles_homeUnknown : ¬Settles (.error .homeUnknown) := by simp [Settles]

@[simp] theorem not_settles_nullCharacter : ¬Settles (.error .nullCharacter) := by simp [Settles]

namespace World

/-- Requests are answered, or fail in one of the ways that requests fail in. -/
def Steady (world : World) : Prop := ∀ request cause, world.reply request ≠ .broken cause

/-- A source for which no file can be sought. -/
def Unplaceable (world : World) (source : Source) : Prop :=
  source.isRemote = false ∧ (holdsNull source.trimmed = true ∨
    ∃ user, (Path.parse source.trimmed).AsksHome user ∧ ¬world.homes.Offers user)

variable {world : World} {source : Source}

theorem settles_fetch (steady : world.Steady) (request : Request) :
    Settles (world.fetch request) := by
  unfold fetch
  split
  · simp
  · simp
  · rename_i cause broken
    exact absurd broken (steady request cause)

theorem settles_readText (path : Path) :
    Settles (world.readText path) ↔ holdsNull path.text = false := by
  have null := FileTree.read_eq_nullCharacter_iff world.files path
  unfold readText
  split
  · rename_i bytes found
    simpa [found] using null
  · rename_i cause text found
    simpa [found] using null
  · rename_i found
    simpa [found] using null

theorem settles_loadFile_of_asksHome {user : String} (named : source.trimmed ≠ "")
    (asked : (Path.parse source.trimmed).AsksHome user) :
    Settles (world.loadFile source) ↔
      holdsNull source.trimmed = false ∧ world.homes.Offers user := by
  obtain ⟨rest, names⟩ := List.head?_eq_some_iff.mp asked.2
  have nulls : holdsNull source.trimmed = true ↔
      holdsNull user = true ∨ ∃ name ∈ rest, holdsNull name = true := by
    rw [← Path.holdsNull_parse, names]
    simp [Path.holdsNull_iff]
  rw [loadFile, if_neg named, Path.expandHome_of_asksHome asked, names, List.tail_cons]
  by_cases held : holdsNull user = true
  · have refused : holdsNull source.trimmed = true := nulls.mpr (.inl held)
    simp [held, refused]
  rw [if_neg held]
  cases found : world.homes.find? user with
  | none => simp [Homes.Offers, found]
  | some home =>
      dsimp only
      by_cases tilde : home.toList.head? = some '~'
      · simp [Homes.Offers, found, tilde]
      · have offered : world.homes.Offers user ↔ holdsNull home = false := by
          simp [Homes.Offers, found, tilde]
        have expanded := Path.holdsNull_text
          { Path.ofHome home with names := (Path.ofHome home).names ++ rest }
        simp only [List.mem_append, or_and_right, exists_or, Path.holdsNull_ofHome] at expanded
        rw [if_neg tilde, offered, ← Bool.not_eq_true, ← Bool.not_eq_true, nulls]
        dsimp only
        rw [settles_readText, ← Bool.not_eq_true, expanded]
        simp [held, and_comm]

theorem settles_loadFile (near : source.isRemote = false) :
    Settles (world.loadFile source) ↔ ¬world.Unplaceable source := by
  by_cases named : source.trimmed = ""
  · rw [loadFile, if_pos named]
    have free : holdsNull "" = false := by decide
    simp [Unplaceable, named, free, Path.not_asksHome_empty]
  by_cases asked : ∃ user, (Path.parse source.trimmed).AsksHome user
  · obtain ⟨user, asked⟩ := asked
    have offered : (∃ other, (Path.parse source.trimmed).AsksHome other ∧
        ¬world.homes.Offers other) ↔ ¬world.homes.Offers user := by
      constructor
      · rintro ⟨other, again, refused⟩
        rwa [asked.eq again]
      · exact fun refused => ⟨user, asked, refused⟩
    rw [settles_loadFile_of_asksHome named asked, Unplaceable, offered]
    simp [near]
  · rw [not_exists] at asked
    rw [loadFile, if_neg named, Path.expandHome_of_not_asksHome asked]
    dsimp only
    rw [settles_readText, ← Bool.not_eq_true, Path.holdsNull_text, Path.holdsNull_parse]
    simp [Unplaceable, near, asked]

theorem settles_load (steady : world.Steady) (timeout : Double) :
    Settles (world.load source timeout) ↔ ¬world.Unplaceable source := by
  cases remote : source.isRemote with
  | true =>
      rw [load_of_remote remote]
      simp [Unplaceable, remote, settles_fetch steady]
  | false => rw [load_of_near remote, settles_loadFile remote]

end World

namespace Handlers

def Listens (handlers : Handlers) : Prop :=
  ∃ handle, handlers.onError = some handle ∧ ∀ failure, handle failure = none

theorem Listens.report {handlers : Handlers} (listens : handlers.Listens)
    (delivered : List Geometry) (failure : Failure) :
    Loader.report handlers delivered failure = ⟨delivered, [failure], [], .ok none⟩ := by
  obtain ⟨handle, given, quiet⟩ := listens
  simp [Loader.report, given, quiet]

end Handlers

namespace Loader

theorem ending_deliver (loader : Loader) {handlers : Handlers} (listens : handlers.Listens)
    (text : String) : ∃ geometry, (loader.deliver handlers text).ending = .ok geometry := by
  unfold deliver
  dsimp only
  split
  · exact ⟨_, rfl⟩
  · rw [listens.report]
    exact ⟨_, rfl⟩

theorem ending_load_iff (loader : Loader) (world : World) {handlers : Handlers}
    (listens : handlers.Listens) (source : Source) :
    (∃ geometry, (loader.load world handlers source).ending = .ok geometry) ↔
      Settles (world.load source loader.timeout) := by
  unfold load
  split
  · rename_i text loaded
    simp [loaded, loader.ending_deliver listens text]
  · rename_i cause failed
    simp [failed, listens.report]
  · rename_i cause other failed
    have unsettled : ¬Settles (.error cause) := by
      rintro (⟨text, ended⟩ | ⟨acquisition, ended⟩)
      · contradiction
      · exact other acquisition (Except.error.inj ended)
    simp [failed, unsettled]

end Loader

/-- With requests that are answered or fail as requests do, and with an error handler that raises
nothing, a load ends with a text or with an acquisition error, and lets no failure through, exactly
when a file can be sought or an address asked. -/
theorem load_settles_iff (loader : Loader) (world : World) (handlers : Handlers) (source : Source)
    (steady : world.Steady) (listens : handlers.Listens) :
    (Settles (world.load source loader.timeout) ↔ ¬world.Unplaceable source) ∧
      ((∃ geometry, (loader.load world handlers source).ending = .ok geometry) ↔
        ¬world.Unplaceable source) := by
  have settled : Settles (world.load source loader.timeout) ↔ ¬world.Unplaceable source :=
    World.settles_load steady loader.timeout
  exact ⟨settled, (loader.ending_load_iff world listens source).trans settled⟩

theorem load_settles_of_home :
    let world : World := ⟨⟨[], []⟩, "/home", fun _ => .failed "offline"⟩
    let handlers : Handlers := ⟨fun _ => some ⟨"ValueError", "refused"⟩, some fun _ => none⟩
    let loader : Loader := ⟨.standard, Loader.standardTimeout⟩
    let source := Source.text "~/part.gcode"
    world.Steady ∧ handlers.Listens ∧ Settles (world.load source loader.timeout) ∧
      ∃ geometry, (loader.load world handlers source).ending = .ok geometry := by
  intro world handlers loader source
  have steady : world.Steady := fun _ _ broken => by contradiction
  have listens : handlers.Listens := ⟨fun _ => none, rfl, fun _ => rfl⟩
  have placed : ¬world.Unplaceable source := by
    rintro ⟨-, held | ⟨user, asked, refused⟩⟩
    · have free : holdsNull source.trimmed = false := by decide +kernel
      rw [free] at held
      contradiction
    · have own : user = "" := asked.eq ⟨by decide +kernel, by decide +kernel⟩
      subst own
      exact refused ⟨"/home", rfl, by decide, by decide⟩
  have settled := load_settles_iff loader world handlers source steady listens
  exact ⟨steady, listens, settled.1.mpr placed, settled.2.mpr placed⟩

/-- The home directory of a user who is not known, and a null character, end a load by failures that
pass through it even when there is an error handler. -/
theorem load_of_unknown_home :
    let world : World := ⟨⟨[], []⟩, "/home", fun _ => .response 200 ""⟩
    let handlers : Handlers := ⟨fun _ => none, some fun _ => none⟩
    let loader : Loader := ⟨.standard, Loader.standardTimeout⟩
    let ending (text : String) := (loader.load world handlers (.text text)).ending
    world.load (.text "~nosuchuser_q/x") loader.timeout = .error .homeUnknown ∧
      ending "~nosuchuser_q/x" = .error (.loading .homeUnknown) ∧
      ending "part\x00.gcode" = .error (.loading .nullCharacter) := by
  intro world handlers loader ending
  have asked : Path.parse (Source.text "~nosuchuser_q/x").trimmed =
      ⟨.relative, ["~nosuchuser_q", "x"]⟩ := by decide +kernel
  have held : Path.parse (Source.text "part\x00.gcode").trimmed =
      ⟨.relative, ["part\x00.gcode"]⟩ := by decide +kernel
  have unknown : world.load (.text "~nosuchuser_q/x") loader.timeout = .error .homeUnknown := by
    rw [World.load_of_near (by decide +kernel), World.loadFile, if_neg (by decide +kernel), asked]
    rfl
  have null : world.load (.text "part\x00.gcode") loader.timeout = .error .nullCharacter := by
    rw [World.load_of_near (by decide +kernel), World.loadFile, if_neg (by decide +kernel), held]
    rfl
  refine ⟨unknown, ?_, ?_⟩
  · simp only [ending, Loader.load, unknown]
  · simp only [ending, Loader.load, null]

end Toolpath
