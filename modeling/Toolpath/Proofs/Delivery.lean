import Toolpath.Proofs.Escape

/-!
What a loader owes to the parties that use it, in any series of loads. The contract leaves nothing
about a load open (`Loader.Contract.eq`).
-/

namespace Toolpath

def LoadResult.lines (source : Source) (result : LoadResult) : List Log.Line :=
  result.logged.map fun _ => Loader.logLine source

namespace Handlers

def Quiet (handlers : Handlers) : Prop :=
  ∀ handle, handlers.onError = some handle → ∀ failure, handle failure = none

end Handlers

namespace Loader

/-- What the parties outside bring to one load. -/
structure Occasion where
  world : World
  handlers : Handlers
  source : Source

namespace Occasion

variable (occasion : Occasion) (loader : Loader)

def acquired : Except LoadError String := occasion.world.load occasion.source loader.timeout

def parsed? : Option Geometry :=
  (occasion.acquired loader).toOption.map fun text => .ofText loader.settings text none

inductive Fails : Failure → Prop
  | acquisition {cause : AcquisitionError}
      (failed : occasion.acquired loader = .error (.acquisition cause)) :
      Fails (.acquisition cause)
  | consumer {geometry : Geometry} {cause : Raised}
      (parsed : occasion.parsed? loader = some geometry)
      (refused : occasion.handlers.onLoad geometry = some cause) : Fails (.consumer cause)

variable {occasion loader}

theorem parsed?_of_ok {text : String} (acquired : occasion.acquired loader = .ok text) :
    occasion.parsed? loader = some (loader.geometry text) := by
  rw [parsed?, acquired]
  rfl

theorem parsed?_of_error {cause : LoadError} (failed : occasion.acquired loader = .error cause) :
    occasion.parsed? loader = none := by
  rw [parsed?, failed]
  rfl

theorem Fails.not_taken {failure : Failure} (fails : occasion.Fails loader failure)
    (geometry : Geometry) :
    ¬(occasion.parsed? loader = some geometry ∧ occasion.handlers.onLoad geometry = none) := by
  rintro ⟨given, taken⟩
  cases fails with
  | acquisition failed =>
      rw [parsed?_of_error failed] at given
      contradiction
  | consumer parsed refused =>
      rw [parsed, Option.some.injEq] at given
      rw [given, taken] at refused
      contradiction

theorem Fails.eq {failure other : Failure} (fails : occasion.Fails loader failure)
    (again : occasion.Fails loader other) : failure = other := by
  cases fails with
  | acquisition failed =>
      cases again with
      | acquisition twice =>
          rw [failed] at twice
          injection twice with same
          injection same with same
          rw [same]
      | consumer parsed _ =>
          rw [parsed?_of_error failed] at parsed
          contradiction
  | consumer parsed refused =>
      cases again with
      | acquisition failed =>
          rw [parsed?_of_error failed] at parsed
          contradiction
      | consumer twice likewise =>
          rw [parsed, Option.some.injEq] at twice
          rw [← twice, refused, Option.some.injEq] at likewise
          rw [likewise]

end Occasion

/-- What a load owes. The consumer is called once if a text was acquired, and not at all otherwise.
What it takes is returned without any report. A failure is reported once, to the error handler if
there is one and by one line of the log otherwise; then nothing is returned, unless the error
handler itself gives way. -/
structure Contract (loader : Loader) (occasion : Occasion) (result : LoadResult) : Prop where
  delivery : result.delivered = (occasion.parsed? loader).toList
  outcome : (∃ geometry, result.ending = .ok (some geometry)) ∨
    ∃ failure, occasion.Fails loader failure
  returned : ∀ geometry, result.ending = .ok (some geometry) ↔
    occasion.parsed? loader = some geometry ∧ occasion.handlers.onLoad geometry = none
  silence : ∀ geometry, result.ending = .ok (some geometry) →
    result.reported = [] ∧ result.logged = []
  handled : ∀ failure handle, occasion.Fails loader failure →
    occasion.handlers.onError = some handle →
    result.reported = [failure] ∧ result.logged = [] ∧
      result.ending = (handle failure).elim (.ok none) (.error ∘ .handler)
  noted : ∀ failure, occasion.Fails loader failure → occasion.handlers.onError = none →
    result.reported = [] ∧ result.logged = [failure] ∧ result.ending = .ok none ∧
      result.lines occasion.source =
        [⟨.error, .loader, "Failed to load toolpath " ++ occasion.source.toText⟩]

namespace Contract

variable {loader : Loader} {occasion : Occasion} {result other : LoadResult}

theorem eq (kept : loader.Contract occasion result) (again : loader.Contract occasion other) :
    result = other := by
  have delivered := kept.delivery.trans again.delivery.symm
  suffices agree : result.reported = other.reported ∧ result.logged = other.logged ∧
      result.ending = other.ending by
    obtain ⟨reported, logged, ending⟩ := agree
    cases result
    cases other
    simp_all
  rcases kept.outcome with ⟨geometry, returned⟩ | ⟨failure, fails⟩
  · have likewise := (again.returned geometry).mpr ((kept.returned geometry).mp returned)
    obtain ⟨unreported, unlogged⟩ := kept.silence geometry returned
    obtain ⟨quiet, empty⟩ := again.silence geometry likewise
    exact ⟨unreported.trans quiet.symm, unlogged.trans empty.symm, returned.trans likewise.symm⟩
  · cases given : occasion.handlers.onError with
    | none =>
        obtain ⟨reported, logged, ending, _⟩ := kept.noted failure fails given
        obtain ⟨reported', logged', ending', _⟩ := again.noted failure fails given
        exact ⟨reported.trans reported'.symm, logged.trans logged'.symm, ending.trans ending'.symm⟩
    | some handle =>
        obtain ⟨reported, logged, ending⟩ := kept.handled failure handle fails given
        obtain ⟨reported', logged', ending'⟩ := again.handled failure handle fails given
        exact ⟨reported.trans reported'.symm, logged.trans logged'.symm, ending.trans ending'.symm⟩

theorem exists_ending (kept : loader.Contract occasion result) (quiet : occasion.handlers.Quiet) :
    ∃ answer, result.ending = .ok answer := by
  rcases kept.outcome with ⟨geometry, returned⟩ | ⟨failure, fails⟩
  · exact ⟨some geometry, returned⟩
  · cases given : occasion.handlers.onError with
    | none => exact ⟨none, (kept.noted failure fails given).2.2.1⟩
    | some handle =>
        have ending := (kept.handled failure handle fails given).2.2
        rw [quiet handle given failure] at ending
        exact ⟨none, ending⟩

theorem of_taken {geometry : Geometry} (parsed : occasion.parsed? loader = some geometry)
    (taken : occasion.handlers.onLoad geometry = none) :
    loader.Contract occasion ⟨[geometry], [], [], .ok (some geometry)⟩ where
  delivery := by rw [parsed, Option.toList_some]
  outcome := .inl ⟨geometry, rfl⟩
  returned other := by
    rw [parsed, Except.ok.injEq]
    exact ⟨fun same => ⟨same, Option.some.inj same ▸ taken⟩, And.left⟩
  silence _ _ := ⟨rfl, rfl⟩
  handled _ _ fails _ := absurd ⟨parsed, taken⟩ (fails.not_taken geometry)
  noted _ fails _ := absurd ⟨parsed, taken⟩ (fails.not_taken geometry)

theorem ending_report_ne (handlers : Handlers) (delivered : List Geometry) (failure : Failure)
    (geometry : Geometry) : (report handlers delivered failure).ending ≠ .ok (some geometry) := by
  unfold report
  split
  · simp
  · split <;> simp

theorem of_fails {failure : Failure} (fails : occasion.Fails loader failure) :
    loader.Contract occasion
      (report occasion.handlers (occasion.parsed? loader).toList failure) where
  delivery := delivered_report _ _ _
  outcome := .inr ⟨failure, fails⟩
  returned geometry := iff_of_false (ending_report_ne _ _ _ geometry) (fails.not_taken geometry)
  silence geometry returned := absurd returned (ending_report_ne _ _ _ geometry)
  handled other handle again given := by
    rw [← fails.eq again]
    cases outcome : handle failure <;> simp [report, given, outcome]
  noted other again given := by
    rw [← fails.eq again]
    simp [report, given, LoadResult.lines, logLine]

theorem of_load (loader : Loader) (occasion : Occasion)
    (settles : Settles (occasion.acquired loader)) :
    loader.Contract occasion (loader.load occasion.world occasion.handlers occasion.source) := by
  rcases settles with ⟨text, acquired⟩ | ⟨cause, failed⟩
  · have parsed := Occasion.parsed?_of_ok acquired
    have loaded : loader.load occasion.world occasion.handlers occasion.source =
        loader.deliver occasion.handlers text := by
      unfold Occasion.acquired at acquired
      rw [load, acquired]
    rw [loaded, deliver]
    cases taken : occasion.handlers.onLoad (loader.geometry text) with
    | none => exact of_taken parsed taken
    | some cause =>
        have kept := of_fails (.consumer parsed taken)
        rwa [parsed] at kept
  · have kept := of_fails (.acquisition failed)
    have loaded : loader.load occasion.world occasion.handlers occasion.source =
        report occasion.handlers [] (.acquisition cause) := by
      unfold Occasion.acquired at failed
      rw [load, failed]
    rwa [loaded, ← Option.toList_none, ← Occasion.parsed?_of_error failed]

end Contract

/-- The loads of a series, each with what the parties outside brought to it. What they bring may go
by the results of the loads before. -/
def series (loader : Loader) (past : List LoadResult) :
    List (List LoadResult → Occasion) → List (Occasion × LoadResult)
  | [] => []
  | next :: rest =>
    let occasion := next past
    let result := loader.load occasion.world occasion.handlers occasion.source
    (occasion, result) :: loader.series (past ++ [result]) rest

theorem result_of_mem_series {loader : Loader} {steps : List (List LoadResult → Occasion)}
    {past : List LoadResult} {occasion : Occasion} {result : LoadResult}
    (member : (occasion, result) ∈ loader.series past steps) :
    result = loader.load occasion.world occasion.handlers occasion.source := by
  induction steps generalizing past with
  | nil => contradiction
  | cons next rest ih =>
      rcases List.mem_cons.mp member with first | later
      · obtain ⟨rfl, rfl⟩ := Prod.mk.inj first
        rfl
      · exact ih later

end Loader

/-- In a series of loads, each one whose text is acquired or fails to be keeps the contract, which
leaves nothing about it open, least of all to the loads before it; and with an error handler that
raises nothing, it does not raise anything either. -/
theorem loads_keep_contract (loader : Loader) (steps : List (List LoadResult → Loader.Occasion)) :
    ∀ visit ∈ loader.series [] steps, Settles (visit.1.acquired loader) →
      loader.Contract visit.1 visit.2 ∧
      (∀ other, loader.Contract visit.1 other → other = visit.2) ∧
      (visit.1.handlers.Quiet → ∃ answer, visit.2.ending = .ok answer) := by
  rintro ⟨occasion, result⟩ member settles
  have kept : loader.Contract occasion result := by
    rw [Loader.result_of_mem_series member]
    exact .of_load loader occasion settles
  exact ⟨kept, fun _ again => again.eq kept, kept.exists_ending⟩

theorem loads_keep_contract_of_second_attempt :
    let world : World := ⟨⟨[], []⟩, "/home", fun _ => .response 200 "G1 X1 E1"⟩
    let refusal : Raised := ⟨"ValueError", "busy"⟩
    let loader : Loader := ⟨.standard, Loader.standardTimeout⟩
    let consumer (past : List LoadResult) : Handlers :=
      ⟨fun _ => if past.any (·.logged ≠ []) then none else some refusal, none⟩
    let step (past : List LoadResult) : Loader.Occasion :=
      ⟨world, consumer past, .text "http://example.com/part.gcode"⟩
    let geometry := Geometry.ofText .standard "G1 X1 E1" none
    ∃ first second, loader.series [] [step, step] = [first, second] ∧
      Settles (first.1.acquired loader) ∧ Settles (second.1.acquired loader) ∧
      first.1.handlers.Quiet ∧ (∃ answer, first.2.ending = .ok answer) ∧
      first.2.logged = [.consumer refusal] ∧ second.2.ending = .ok (some geometry) := by
  intro world refusal loader consumer step geometry
  have acquired (past : List LoadResult) : (step past).acquired loader = .ok "G1 X1 E1" := by
    have remote : (Source.text "http://example.com/part.gcode").isRemote = true := by
      decide +kernel
    exact (World.load_of_remote remote).trans rfl
  have parsed (past : List LoadResult) := Loader.Occasion.parsed?_of_ok (acquired past)
  have settles (past : List LoadResult) : Settles ((step past).acquired loader) :=
    .inl ⟨_, acquired past⟩
  have quiet (past : List LoadResult) : (step past).handlers.Quiet :=
    fun _ given => by contradiction
  have kept := loads_keep_contract loader [step, step]
  rw [Loader.series, Loader.series, Loader.series] at kept
  rw [List.forall_mem_cons, List.forall_mem_cons] at kept
  obtain ⟨first, second, _⟩ := kept
  obtain ⟨contract, _, answers⟩ := first (settles _)
  obtain ⟨_, logged, _, _⟩ := contract.noted (.consumer refusal) (.consumer (parsed []) rfl) rfl
  refine ⟨_, _, rfl, settles _, settles _, quiet _, answers (quiet _), logged, ?_⟩
  obtain ⟨contract, _, _⟩ := second (settles _)
  refine (contract.returned geometry).mpr ⟨parsed _, ?_⟩
  dsimp only [step, consumer]
  rw [List.nil_append, List.any_cons, logged]
  rfl

end Toolpath
