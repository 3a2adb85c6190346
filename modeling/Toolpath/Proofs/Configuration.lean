import Mathlib.Data.List.Induction
import Toolpath.Settings

/-!
The settings in force, read off the history of a store: the value that the variable was given last,
and the settings that the last call with success gave.
-/

namespace Toolpath.Settings

open Text

/-- Where the offset of settings comes from. The environment is asked only when the arguments give
none, and a blank text in it counts for nothing. -/
inductive OffsetFrom (environment? : Option String) (arguments : Arguments) (offset : Double) : Prop
  | argument {value : Argument} (named : given arguments.toolOffset = some value)
      (read : value.toDouble = .ok offset)
  | environment {text : String} {numeral : Numeral} (absent : given arguments.toolOffset = none)
      (held : environment? = some text) (filled : strip text.toList ≠ [])
      (read : Numeral.whole? text.toList = some numeral) (exact : offset = numeral.value)
  | standard (absent : given arguments.toolOffset = none)
      (blank : ∀ text, environment? = some text → strip text.toList = [])
      (usual : offset = standardOffset)

/-- Settings as arguments and the environment ask for them, the standard filling in for what is not
given. -/
structure BuiltFrom (environment? : Option String) (arguments : Arguments) (settings : Settings) :
    Prop where
  offset : OffsetFrom environment? arguments settings.toolOffset
  layers : settings.splitLayers = ((given arguments.splitLayers).map Argument.truth).getD true
  travel : settings.travelStartsLayer =
    ((given arguments.travelStartsLayer).map Argument.truth).getD false

theorem environmentOffset_eq_ok_iff (environment? : Option String) (arguments : Arguments)
    (offset : Double) (absent : given arguments.toolOffset = none) :
    environmentOffset environment? = .ok offset ↔ OffsetFrom environment? arguments offset := by
  constructor
  · intro asked
    unfold environmentOffset at asked
    split at asked
    · exact .standard absent (by simp) (Except.ok.inj asked).symm
    · rename_i text
      split at asked
      · rename_i blank
        refine .standard absent ?_ (Except.ok.inj asked).symm
        intro other held
        rw [← Option.some.inj held]
        exact List.isEmpty_iff.mp blank
      · rename_i filled
        rw [List.isEmpty_iff] at filled
        split at asked
        · rename_i numeral read
          exact .environment absent rfl filled read (Except.ok.inj asked).symm
        · contradiction
  · rintro (⟨named, _⟩ | ⟨_, held, filled, read, exact⟩ | ⟨_, blank, usual⟩)
    · rw [absent] at named
      contradiction
    · simp [environmentOffset, held, filled, read, exact]
    · rw [usual]
      cases held : environment? with
      | none => rfl
      | some text => simp [environmentOffset, blank text held]

theorem make_eq_ok_iff (splitLayers : Bool) (toolOffset : Double) (travelStartsLayer : Bool)
    (settings : Settings) :
    make splitLayers toolOffset travelStartsLayer = .ok settings ↔
      settings.toolOffset = toolOffset ∧ settings.splitLayers = splitLayers ∧
        settings.travelStartsLayer = travelStartsLayer := by
  unfold make
  split
  · rename_i finite
    obtain ⟨layers, offset, travel, _⟩ := settings
    simp only [Except.ok.injEq, Settings.mk.injEq]
    tauto
  · rename_i infinite
    refine iff_of_false (by simp) ?_
    rintro ⟨rfl, _⟩
    exact infinite settings.offset_finite

theorem resolve_eq_ok_iff (environment? : Option String) (arguments : Arguments)
    (settings : Settings) :
    resolve environment? arguments = .ok settings ↔
      BuiltFrom environment? arguments settings := by
  have bound (asked : Except SettingsError Double) :
      (asked >>= fun offset => make
        (((given arguments.splitLayers).map Argument.truth).getD true) offset
        (((given arguments.travelStartsLayer).map Argument.truth).getD false)) = .ok settings ↔
      asked = .ok settings.toolOffset ∧
        settings.splitLayers = ((given arguments.splitLayers).map Argument.truth).getD true ∧
        settings.travelStartsLayer =
          ((given arguments.travelStartsLayer).map Argument.truth).getD false := by
    cases asked with
    | error cause => exact iff_of_false (by rintro ⟨⟩) (by simp)
    | ok offset =>
        refine (make_eq_ok_iff _ offset _ settings).trans (and_congr_left fun _ => ?_)
        rw [Except.ok.injEq, eq_comm]
  have assembled : BuiltFrom environment? arguments settings ↔
      OffsetFrom environment? arguments settings.toolOffset ∧
        settings.splitLayers = ((given arguments.splitLayers).map Argument.truth).getD true ∧
        settings.travelStartsLayer =
          ((given arguments.travelStartsLayer).map Argument.truth).getD false :=
    ⟨fun built => ⟨built.offset, built.layers, built.travel⟩,
      fun ⟨offset, layers, travel⟩ => ⟨offset, layers, travel⟩⟩
  unfold resolve
  cases named : given arguments.toolOffset with
  | none =>
      dsimp only
      rw [bound, assembled, environmentOffset_eq_ok_iff environment? arguments _ named]
  | some value =>
      dsimp only
      rw [bound, assembled]
      refine and_congr_left fun _ => ?_
      constructor
      · exact .argument named
      · rintro (⟨again, read⟩ | ⟨absent, _⟩ | ⟨absent, _⟩)
        · rw [named] at again
          rwa [Option.some.inj again]
        · rw [named] at absent
          contradiction
        · rw [named] at absent
          contradiction

theorem exists_builtFrom_iff (environment? : Option String) (arguments : Arguments) :
    (∃ settings, BuiltFrom environment? arguments settings) ↔
      ∃ offset, OffsetFrom environment? arguments offset ∧ offset.isFinite = true := by
  constructor
  · rintro ⟨settings, built⟩
    exact ⟨settings.toolOffset, built.offset, settings.offset_finite⟩
  · rintro ⟨offset, asked, finite⟩
    exact ⟨⟨_, offset, _, finite⟩, asked, rfl, rfl⟩

inductive Event where
  | setEnvironment (text : String)
  | unsetEnvironment
  | configure (arguments : Arguments)
  | get
deriving DecidableEq

namespace Event

def write? : Event → Option (Option String)
  | setEnvironment text => if '\x00' ∈ text.toList then none else some (some text)
  | unsetEnvironment => some none
  | _ => none

def environment? (events : List Event) : Option String := (events.filterMap write?).getLast?.join

def arguments : Event → Arguments
  | configure arguments => arguments
  | _ => .none

end Event

def lastBuilt (answers : List (Except SettingsError Settings)) : Option Settings :=
  (answers.filterMap Except.toOption).getLast?

theorem mem_of_lastBuilt {answers : List (Except SettingsError Settings)} {settings : Settings}
    (last : lastBuilt answers = some settings) : .ok settings ∈ answers := by
  obtain ⟨answer, member, given⟩ := List.mem_filterMap.mp (List.mem_of_getLast? last)
  cases answer with
  | error cause => contradiction
  | ok built => rwa [← Option.some.inj given]

theorem lastBuilt_eq_none_iff (answers : List (Except SettingsError Settings)) :
    lastBuilt answers = none ↔ ∀ settings, .ok settings ∉ answers := by
  constructor
  · intro never settings member
    rw [lastBuilt, List.getLast?_eq_none_iff, List.filterMap_eq_nil_iff] at never
    exact absurd (never _ member) (by simp [Except.toOption])
  · intro never
    by_contra some
    obtain ⟨settings, last⟩ := Option.ne_none_iff_exists'.mp some
    exact never settings (mem_of_lastBuilt last)

namespace Store

def handle (store : Store) : Event → Option (Except SettingsError Settings) × Store
  | .setEnvironment text => (none, (store.setEnvironment text).toOption.getD store)
  | .unsetEnvironment => (none, store.unsetEnvironment)
  | .configure arguments => (store.configure arguments).map some id
  | .get => store.get.map some id

def after (events : List Event) : Store :=
  events.foldl (fun store event => (store.handle event).2) empty

def answersFrom (store : Store) : List Event → List (Except SettingsError Settings)
  | [] => []
  | event :: rest => (store.handle event).1.toList ++ answersFrom (store.handle event).2 rest

def answers (events : List Event) : List (Except SettingsError Settings) := answersFrom empty events

/-- What an event can do to a store: it changes the environment or is refused that, it answers with
settings and puts them in force, or it fails and leaves the store as it was. -/
inductive Outcome (store : Store) (event : Event) :
    Option (Except SettingsError Settings) × Store → Prop
  | changed {value : Option String} (written : event.write? = some value) :
      Outcome store event (none, { store with environment? := value })
  | refused (unwritten : event.write? = none) : Outcome store event (none, store)
  | answered {settings : Settings} (unwritten : event.write? = none)
      (origin : store.cached? = some settings ∨
        BuiltFrom store.environment? event.arguments settings) :
      Outcome store event (some (.ok settings), { store with cached? := some settings })
  | failed {cause : SettingsError} (unwritten : event.write? = none) :
      Outcome store event (some (.error cause), store)

theorem outcome_of_build (store : Store) {event : Event} (unwritten : event.write? = none) :
    Outcome store event ((store.configure event.arguments).map some id) := by
  unfold configure
  split
  · rename_i settings built
    exact .answered unwritten (.inr ((resolve_eq_ok_iff _ _ _).mp built))
  · exact .failed unwritten

theorem outcome (store : Store) (event : Event) : Outcome store event (store.handle event) := by
  cases event with
  | setEnvironment text =>
      by_cases null : '\x00' ∈ text.toList
      · have kept : (store.setEnvironment text).toOption.getD store = store := by
          simp [setEnvironment, null, Except.toOption]
        rw [handle, kept]
        exact .refused (by simp [Event.write?, null])
      · have changed : (store.setEnvironment text).toOption.getD store =
            { store with environment? := some text } := by
          simp [setEnvironment, null, Except.toOption]
        rw [handle, changed]
        exact .changed (by simp [Event.write?, null])
  | unsetEnvironment => exact .changed rfl
  | configure arguments => exact @outcome_of_build store (.configure arguments) rfl
  | get =>
      cases cached : store.cached? with
      | none =>
          have built : store.get = store.configure Event.get.arguments := by
            rw [get, cached]
            rfl
          rw [handle, built]
          exact store.outcome_of_build rfl
      | some settings =>
          have same : { store with cached? := some settings } = store := by rw [← cached]
          have found : store.get = (.ok settings, { store with cached? := some settings }) := by
            rw [same, get, cached]
          rw [handle, found]
          exact .answered rfl (.inl cached)

theorem environment?_handle (store : Store) (event : Event) :
    (store.handle event).2.environment? = event.write?.getD store.environment? := by
  have outcome := store.outcome event
  generalize store.handle event = result at outcome ⊢
  cases outcome with
  | changed written => rw [written, Option.getD_some]
  | refused unwritten => rw [unwritten, Option.getD_none]
  | answered unwritten => rw [unwritten, Option.getD_none]
  | failed unwritten => rw [unwritten, Option.getD_none]

theorem cached?_handle (store : Store) (event : Event) :
    (store.handle event).2.cached? =
      ((store.handle event).1.bind Except.toOption).or store.cached? := by
  have outcome := store.outcome event
  generalize store.handle event = result at outcome ⊢
  cases outcome <;> rfl

theorem handle_of_error {store : Store} {event : Event} {cause : SettingsError}
    (failed : (store.handle event).1 = some (.error cause)) : (store.handle event).2 = store := by
  have outcome := store.outcome event
  generalize store.handle event = result at outcome failed ⊢
  cases outcome with
  | changed => contradiction
  | refused => rfl
  | answered => simp at failed
  | failed => rfl

theorem after_concat (past : List Event) (event : Event) :
    after (past ++ [event]) = ((after past).handle event).2 := by
  simp [after]

theorem answersFrom_concat (past : List Event) (event : Event) : ∀ store : Store,
    store.answersFrom (past ++ [event]) = store.answersFrom past ++
      ((past.foldl (fun store event => (store.handle event).2) store).handle event).1.toList := by
  induction past with
  | nil => simp [answersFrom]
  | cons first rest ih =>
      intro store
      rw [List.cons_append, answersFrom, ih, answersFrom, List.append_assoc, List.foldl_cons]

theorem answers_concat (past : List Event) (event : Event) :
    answers (past ++ [event]) = answers past ++ ((after past).handle event).1.toList :=
  answersFrom_concat past event empty

theorem environment?_after (past : List Event) :
    (after past).environment? = Event.environment? past := by
  induction past using List.reverseRecOn with
  | nil => rfl
  | append_singleton past event ih =>
      rw [after_concat, environment?_handle, ih, Event.environment?, Event.environment?]
      cases written : event.write? <;> simp [written]

theorem cached?_after (past : List Event) : (after past).cached? = lastBuilt (answers past) := by
  induction past using List.reverseRecOn with
  | nil => rfl
  | append_singleton past event ih =>
      rw [after_concat, cached?_handle, ih, answers_concat, lastBuilt, lastBuilt,
        List.filterMap_append, List.getLast?_append]
      rcases ((after past).handle event).1 with _ | answer
      · rfl
      · cases answer <;> rfl

theorem exists_builtFrom_of_mem_answers {past : List Event} {settings : Settings}
    (member : .ok settings ∈ answers past) :
    ∃ before event, before ++ [event] <+: past ∧
      BuiltFrom (Event.environment? before) event.arguments settings := by
  induction past using List.reverseRecOn with
  | nil => contradiction
  | append_singleton past event ih =>
      have earlier (given : .ok settings ∈ answers past) :
          ∃ before event', before ++ [event'] <+: past ++ [event] ∧
            BuiltFrom (Event.environment? before) event'.arguments settings := by
        obtain ⟨before, call, front, built⟩ := ih given
        exact ⟨before, call, front.trans (List.prefix_append past [event]), built⟩
      rw [answers_concat, List.mem_append] at member
      rcases member with given | now
      · exact earlier given
      · have outcome := (after past).outcome event
        generalize (after past).handle event = result at outcome now
        cases outcome with
        | changed | refused | failed => simp at now
        | answered unwritten origin =>
            simp only [Option.toList_some, List.mem_singleton, Except.ok.injEq] at now
            subst now
            rcases origin with cached | built
            · rw [cached?_after] at cached
              exact earlier (mem_of_lastBuilt cached)
            · rw [environment?_after] at built
              exact ⟨past, event, List.prefix_rfl, built⟩

theorem get_of_built {past : List Event} {settings : Settings}
    (last : lastBuilt (answers past) = some settings) :
    (after past).get = (.ok settings, after past) := by
  rw [get, cached?_after, last]

theorem get_of_unbuilt {past : List Event} (never : lastBuilt (answers past) = none) :
    (after past).get = (after past).configure .none := by
  rw [get, cached?_after, never]

theorem configure_fst (past : List Event) (arguments : Arguments) :
    ((after past).configure arguments).1 = resolve (Event.environment? past) arguments := by
  rw [configure, environment?_after]
  split <;> simp_all

theorem cached?_configure {store : Store} {arguments : Arguments} {settings : Settings}
    (built : (store.configure arguments).1 = .ok settings) :
    (store.configure arguments).2.cached? = some settings := by
  have cached := store.cached?_handle (.configure arguments)
  simpa [handle, built, Except.toOption] using cached

end Store

/-- However a history went, settings are built from the arguments of the call and the environment at
that moment alone, without the environment when the arguments give an offset, and they are in force
from then on. Once any were built, asking gives the last ones; before that, asking builds them
without arguments. A call that fails changes nothing, and every offset ever given is finite. -/
theorem configuration_by_history (past : List Event) :
    let store := Store.after past
    let answers := Store.answers past
    let environment? := Event.environment? past
    (∀ arguments,
      (store.configure arguments).1 = resolve environment? arguments ∧
      (∀ settings, (store.configure arguments).1 = .ok settings →
        (store.configure arguments).2.cached? = some settings) ∧
      (∀ settings, resolve environment? arguments = .ok settings ↔
        BuiltFrom environment? arguments settings) ∧
      ((∃ settings, resolve environment? arguments = .ok settings) ↔
        ∃ offset, OffsetFrom environment? arguments offset ∧ offset.isFinite = true) ∧
      (given arguments.toolOffset ≠ none →
        ∀ other?, resolve other? arguments = resolve environment? arguments)) ∧
    ((∃ settings, .ok settings ∈ answers) →
      ∃ settings, lastBuilt answers = some settings ∧ store.get = (.ok settings, store)) ∧
    ((∀ settings, .ok settings ∉ answers) → store.get = store.configure .none) ∧
    (∀ event cause, (store.handle event).1 = some (.error cause) →
      (store.handle event).2 = store) ∧
    ∀ settings, .ok settings ∈ answers → settings.toolOffset.isFinite = true ∧
      ∃ before event, before ++ [event] <+: past ∧
        BuiltFrom (Event.environment? before) event.arguments settings := by
  intro store answers environment?
  refine ⟨fun arguments => ⟨?_, ?_, ?_, ?_, ?_⟩, ?_, ?_, ?_, ?_⟩
  · exact Store.configure_fst past arguments
  · intro settings built
    exact Store.cached?_configure built
  · exact resolve_eq_ok_iff environment? arguments
  · simp only [resolve_eq_ok_iff]
    exact exists_builtFrom_iff environment? arguments
  · intro named other?
    obtain ⟨value, named⟩ := Option.ne_none_iff_exists'.mp named
    rw [resolve, resolve, named]
  · rintro ⟨settings, member⟩
    cases last : lastBuilt answers with
    | none => exact absurd member ((lastBuilt_eq_none_iff answers).mp last settings)
    | some latest => exact ⟨latest, rfl, Store.get_of_built last⟩
  · intro never
    exact Store.get_of_unbuilt ((lastBuilt_eq_none_iff answers).mpr never)
  · intro event cause failed
    exact Store.handle_of_error failed
  · intro settings member
    exact ⟨settings.offset_finite, Store.exists_builtFrom_of_mem_answers member⟩

theorem configuration_by_history_of_failures :
    let early : List Event := [.setEnvironment "x", .get]
    let past : List Event := early ++
      [.configure ⟨some (.flag false), some (.number (.whole 12)), none⟩, .setEnvironment "inf",
        .configure .none, .unsetEnvironment]
    let settings : Settings := ⟨false, 12, false, by decide +kernel⟩
    let unread : Arguments := ⟨none, some (.list true), none⟩
    Store.answers past =
        [.error (.environmentNotNumeric "x"), .ok settings, .error .offsetNotFinite] ∧
      (Store.after past).get = (.ok settings, Store.after past) ∧
      (Store.after early).get = (Store.after early).configure .none ∧
      ((Store.after past).handle (.configure unread)).2 = Store.after past ∧
      resolve (some "x") unread = resolve none unread := by
  intro early past settings unread
  have answered : Store.answers past =
      [.error (.environmentNotNumeric "x"), .ok settings, .error .offsetNotFinite] := by
    decide +kernel
  have refused : Store.answers early = [.error (.environmentNotNumeric "x")] := by decide +kernel
  have failed : ((Store.after past).handle (.configure unread)).1 =
      some (.error (.wrongType "list")) := by decide +kernel
  have unset : Event.environment? past = none := by decide +kernel
  obtain ⟨_, _, unbuilt, _⟩ := configuration_by_history early
  obtain ⟨built, asked, _, kept, _⟩ := configuration_by_history past
  obtain ⟨_, _, _, _, unasked⟩ := built unread
  obtain ⟨latest, last, found⟩ := asked ⟨settings, by simp [answered]⟩
  have same : latest = settings := by
    rw [answered] at last
    exact (Option.some.inj last).symm
  refine ⟨answered, same ▸ found, unbuilt (by simp [refused]), kept _ _ failed, ?_⟩
  rw [← unset]
  exact unasked (by decide) (some "x")

end Toolpath.Settings
