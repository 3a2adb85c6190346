import Toolpath.Proofs.Acquisition
import Toolpath.Proofs.Balance
import Toolpath.Proofs.Configuration
import Toolpath.Proofs.Export
import Toolpath.Proofs.Summary

/-!
The command line prints what the library says of the same program, for every combination of options.
-/

namespace Toolpath.CommandLine

open Text

/-- The settings that options ask for. Without an offset among the options the standard one is asked
for, and nothing in the environment speaks against it. -/
structure Asks (options : Options) (environment : Option String) (settings : Settings) : Prop where
  layers : settings.splitLayers = !options.flat
  travel : settings.travelStartsLayer = options.travelLayers
  offset : options.toolOffset = some (.value settings.toolOffset) ∨
    options.toolOffset = none ∧ environment = none ∧
      settings.toolOffset = Settings.standardOffset

theorem settingsOf_of_asks {options : Options} {environment : Option String} {settings : Settings}
    (asks : Asks options environment settings) :
    settingsOf environment options = .ok settings := by
  rw [settingsOf, Settings.resolve_eq_ok_iff]
  refine ⟨?_, asks.layers, asks.travel⟩
  rcases asks.offset with named | ⟨absent, unset, usual⟩
  · have given : Settings.given (options.toolOffset.map offsetArgument) =
        some (.number (.real settings.toolOffset)) := by
      rw [named]
      rfl
    exact .argument given rfl
  · refine .standard ?_ ?_ usual
    · rw [absent]
      rfl
    · rw [unset]
      simp

def flags : List (String × Switch) :=
  [("--flat", .flat), ("--json", .json), ("--travel-layers", .travelLayers),
    ("--verbose", .verbose)]

def valued : List (String × Switch) := [("--preview", .preview), ("--tool-offset", .toolOffset)]

/-- The arguments that choose some flags, give an offset if there is one, and name a source. -/
def spelled (chosen : Switch → Bool) (offset? : Option String) (source : String) : List String :=
  (flags.filter (chosen ·.2)).map (·.1) ++
    ((offset?.map ("--tool-offset=" ++ ·)).toList ++ ["--", source])

namespace Word

theorem classifyAll_cons {word : String} {found : Word} (other : word ≠ "--")
    (read : classify word.toList = .ok found) (rest : List String) :
    classifyAll (word :: rest) = (classifyAll rest).map (found :: ·) := by
  rw [classifyAll.eq_3 _ _ other, read]
  rfl

theorem classifyAll_flags {names : List (String × Switch)} (listed : ∀ flag ∈ names, flag ∈ flags)
    {rest : List String} {words : List Word} (following : classifyAll rest = .ok words) :
    classifyAll (names.map (·.1) ++ rest) =
      .ok (names.map (fun flag => option flag.2 false none) ++ words) := by
  have table : ∀ flag ∈ flags, flag.1 ≠ "--" ∧
      classify flag.1.toList = .ok (option flag.2 false none) := by decide +kernel
  induction names with
  | nil => exact following
  | cons flag names ih =>
      rw [List.forall_mem_cons] at listed
      obtain ⟨other, read⟩ := table flag listed.1
      rw [List.map_cons, List.cons_append, classifyAll_cons other read, ih listed.2]
      rfl

theorem splitValue_append {name : List Char} (value : List Char) (plain : '=' ∉ name) :
    splitValue (name ++ '=' :: value) = (name, some value) := by
  have passed : ∀ char ∈ name, decide (char ≠ '=') = true :=
    fun char member => decide_eq_true fun same => plain (same ▸ member)
  rw [splitValue, List.dropWhile_append_of_pos passed, List.takeWhile_append_of_pos passed]
  simp

theorem ofName?_of_mem {name : List Char} (assigned : '=' ∈ name) :
    Switch.ofName? (String.ofList name) = none := by
  have table : ∀ entry ∈ Switch.names, '=' ∉ entry.1.toList := by decide
  rw [Switch.ofName?, List.lookup_eq_none_iff]
  intro entry listed
  refine bne_iff_ne.mpr fun same => table entry listed ?_
  rwa [← same, String.toList_ofList]

theorem classify_assigned {assigned : String × Switch} (listed : assigned ∈ valued)
    (text : String) :
    classify (assigned.1.toList ++ '=' :: text.toList) =
      .ok (option assigned.2 false (some text)) := by
  have table : ∀ assigned ∈ valued, '=' ∉ assigned.1.toList ∧
      Switch.ofName? assigned.1 = some assigned.2 ∧ assigned.1.toList.length ≠ 2 ∧
      ∃ rest, assigned.1.toList = '-' :: '-' :: rest := by
    simp only [valued, List.forall_mem_cons, List.not_mem_nil, false_imp_iff, implies_true]
    exact ⟨⟨by decide, by decide, by decide, _, rfl⟩, ⟨by decide, by decide, by decide, _, rfl⟩,
      trivial⟩
  obtain ⟨plain, known, long, rest, begins⟩ := table assigned listed
  have cut := splitValue_append text.toList plain
  have named : named? (assigned.1.toList ++ '=' :: text.toList) =
      some (option assigned.2 false (some text)) := by
    rw [named?, ofName?_of_mem (by simp), cut]
    simp [known, long]
  rw [classify, named, begins]
  simp

theorem classifyAll_assigned {assigned : String × Switch} (listed : assigned ∈ valued)
    (text : String) {word : String} (written : word.toList = assigned.1.toList ++ '=' :: text.toList)
    (rest : List String) :
    classifyAll (word :: rest) =
      (classifyAll rest).map (option assigned.2 false (some text) :: ·) := by
  have other : word ≠ "--" := by
    rintro rfl
    have assigns : '=' ∈ "--".toList := written ▸ by simp
    exact absurd assigns (by decide)
  exact classifyAll_cons other (written ▸ classify_assigned listed text) rest

end Word

theorem readWords_flags {names : List (String × Switch)} (listed : ∀ flag ∈ names, flag ∈ flags)
    (rest : List Word) (reading : Reading) :
    readWords (names.map (fun flag => .option flag.2 false none) ++ rest) .any reading =
      readWords rest .any (names.foldl (fun reading flag => reading.turnOn flag.2) reading) := by
  have table : ∀ flag ∈ flags, flag.2.takesValue = false ∧ [flag.2].contains .help = false := by
    decide
  induction names generalizing reading with
  | nil => rfl
  | cons flag names ih =>
      rw [List.forall_mem_cons] at listed
      obtain ⟨valueless, helpless⟩ := table flag listed.1
      rw [List.map_cons, List.cons_append, readWords, valueless, Reading.act, helpless]
      · exact ih listed.2 (reading.turnOn flag.2)
      · exact nofun

namespace Reading

theorem foldl_turnOn_flags (chosen : Switch → Bool) :
    (flags.filter (chosen ·.2)).foldl (fun reading flag => reading.turnOn flag.2) initial =
      { initial with
        options := { initial.options with
          flat := chosen .flat
          json := chosen .json
          travelLayers := chosen .travelLayers
          verbose := chosen .verbose } } := by
  cases flat : chosen .flat <;> cases json : chosen .json <;>
    cases travel : chosen .travelLayers <;> cases verbose : chosen .verbose <;>
    simp [flags, List.filter, flat, json, travel, verbose, turnOn, initial]

theorem setValue_offset {reading : Reading} {text : String} {numeral : Numeral}
    (read : Numeral.whole? text.toList = some numeral) :
    reading.setValue .toolOffset text = .ok (reading.setOffset (.value numeral.value)) := by
  have named : text ≠ "--" := by
    rintro rfl
    have unread : Numeral.whole? "--".toList = none := by decide +kernel
    rw [unread] at read
    contradiction
  rw [setValue, Given.ofText, if_neg named]
  dsimp only
  rw [read]

end Reading

def wanted (chosen : Switch → Bool) (offset? : Option Double) (source : String) : Options where
  source := source
  flat := chosen .flat
  json := chosen .json
  preview := none
  toolOffset := offset?.map .value
  travelLayers := chosen .travelLayers
  verbose := chosen .verbose

theorem parse_spelled (chosen : Switch → Bool) {offset? : Option (String × Numeral)}
    (read : ∀ offset ∈ offset?, Numeral.whole? offset.1.toList = some offset.2)
    (source : String) :
    parse (spelled chosen (offset?.map (·.1)) source) =
      .run (wanted chosen (offset?.map (·.2.value)) source) := by
  have listed : ∀ flag ∈ flags.filter (chosen ·.2), flag ∈ flags :=
    fun _ member => List.mem_of_mem_filter member
  have ending : Word.classifyAll ["--", source] = .ok [.separator, .operand source] := rfl
  cases offset? with
  | none =>
      rw [parse, spelled, Option.map_none, Option.map_none, Option.toList_none, List.nil_append,
        Word.classifyAll_flags listed ending]
      dsimp only
      rw [readWords_flags listed, Reading.foldl_turnOn_flags]
      rfl
  | some offset =>
      obtain ⟨text, numeral⟩ := offset
      have whole := read _ (Option.mem_some_self _)
      have assigned : Word.classifyAll (("--tool-offset=" ++ text) :: ["--", source]) =
          .ok [.option .toolOffset false (some text), .separator, .operand source] := by
        rw [Word.classifyAll_assigned (by decide : ("--tool-offset", .toolOffset) ∈ valued) text
          (by simp), ending]
        rfl
      rw [parse, spelled, Option.map_some, Option.map_some, Option.toList_some,
        List.singleton_append, Word.classifyAll_flags listed assigned]
      dsimp only
      rw [readWords_flags listed, Reading.foldl_turnOn_flags, readWords]
      · simp only [Switch.takesValue, if_true, Reading.setValue_offset whole]
        rfl
      · exact nofun

def reported? (line : Log.Line) : Option Nat :=
  match words line.message.toList with
  | first :: _ :: _ :: _ :: number :: unit :: _ =>
    if line.level = .info ∧ first = "Parsed".toList ∧ unit = "moves".toList then
      some (Nat.ofDigitChars 10 number 0)
    else none
  | _ => none

theorem reported?_of_level {line : Log.Line} (other : line.level ≠ .info) :
    reported? line = none := by
  unfold reported?
  split
  · exact if_neg fun info => other info.1
  · rfl

theorem reported?_of_first {line : Log.Line} (first : List Char)
    (begins : first ++ [' '] <+: line.message.toList) (solid : words first = [first])
    (other : first ≠ "Parsed".toList) : reported? line = none := by
  obtain ⟨rest, message⟩ := begins
  rw [List.append_assoc, List.singleton_append] at message
  rw [reported?, ← message, words_append_blank first rest (by decide), solid,
    List.singleton_append]
  split
  · rename_i listed
    obtain ⟨rfl, _⟩ := List.cons.inj listed
    exact if_neg fun info => other info.2.1
  · rfl

theorem reported?_count (lines moves layers : Nat) :
    reported? (note .info ("Parsed " ++ toString lines ++ " lines into " ++ toString moves ++
      " moves across " ++ toString layers ++ " layers")) = some moves := by
  have parts : ("Parsed " ++ toString lines ++ " lines into " ++ toString moves ++
      " moves across " ++ toString layers ++ " layers").toList = "Parsed".toList ++
      [Nat.toDigits 10 lines, "lines".toList, "into".toList, Nat.toDigits 10 moves,
        "moves".toList, "across".toList, Nat.toDigits 10 layers,
        "layers".toList].flatMap (' ' :: ·) := by
    simp
  rw [reported?, note, parts, words_spaced]
  · exact (if_pos ⟨rfl, rfl, rfl⟩).trans (congrArg some Nat.ofDigitChars_ten_toDigits)
  · simp only [List.forall_mem_cons]
    exact ⟨solid_of_checked (by decide), solid_toDigits lines, solid_of_checked (by decide),
      solid_of_checked (by decide), solid_toDigits moves, solid_of_checked (by decide),
      solid_of_checked (by decide), solid_toDigits layers, solid_of_checked (by decide), by simp⟩

theorem filterMap_kept (verbose : Bool) (log : List Log.Line) :
    (kept verbose log).filterMap reported? = log.filterMap reported? := by
  unfold kept
  split
  · rfl
  · rw [List.filterMap_filter]
    congr 1
    funext line
    split
    · rfl
    · rename_i dropped
      have level : line.level = .debug := by simpa using dropped
      exact (reported?_of_level (by simp [level])).symm

theorem filterMap_interpretationLog (machine : Machine) :
    (interpretationLog machine).filterMap reported? = [machine.diagnostics.moves] := by
  have skips : machine.diagnostics.log.filterMap reported? = [] := by
    rw [List.filterMap_eq_nil_iff]
    intro line member
    obtain ⟨skip, _, rfl⟩ := List.mem_map.mp member
    exact reported?_of_level (by simp [Skip.logLine])
  have arcs (count : Nat) : (if count = 0 then [] else
      [note .info ("Skipped " ++ toString count ++ " unsupported arc commands")]).filterMap
        reported? = [] := by
    split
    · rfl
    · refine List.filterMap_cons_none ?_
      exact reported?_of_first "Skipped".toList (by simp [note]) (by decide) (by decide)
  have malformed (count : Nat) : (if count = 0 then [] else
      [note .warning ("Found " ++ toString count ++ " malformed parameters")]).filterMap
        reported? = [] := by
    split
    · rfl
    · exact List.filterMap_cons_none (reported?_of_level (by simp [note]))
  rw [interpretationLog, List.filterMap_append, List.filterMap_append, List.filterMap_append,
    skips, arcs, malformed, List.filterMap_cons_some (reported?_count _ _ _)]
  rfl

theorem filterMap_writePreview (surface : Surface) (files : FileTree) (target : Given String)
    (geometry : Geometry) :
    (writePreview pixels files target geometry).log.filterMap reported? = [] := by
  have drawn (summary : PreviewSummary) : reported? summary.logLine = none :=
    reported?_of_level (by simp [PreviewSummary.logLine])
  have wrote (path : String) : reported? (note .info ("Wrote preview to " ++ path)) = none :=
    reported?_of_first "Wrote".toList (by simp [note]) (by decide) (by decide)
  have undrawn (message : String) : reported? (note .error message) = none :=
    reported?_of_level (by simp [note])
  unfold writePreview
  split
  · simp [undrawn]
  · rfl
  · split
    · simp [drawn]
    · unfold writeImage
      dsimp only
      split
      · simp [drawn]
      · simp [drawn, wrote]

theorem printed_eq (json : Bool) (geometry : Geometry) :
    printed json geometry = some (if json then (Record.ofGeometry geometry).text ++ "\n"
      else joinLines (summary geometry)) := by
  rw [printed, Record.strictText?_ofGeometry]
  cases json <;> rfl

theorem moves_interpret (settings : Settings) (text : String) :
    (interpret settings text).diagnostics.moves =
      ((interpret settings text).layers.map Layer.count).sum := by
  have segments := Stack.count_run settings (Command.ofText text.toList)
  rw [interpret, Machine.account_run]
  exact segments.symm

/-- What an outcome shows of a geometry: its record, or a summary that can be read line by line and
states as many segments as the log reports moves. Without a preview the run succeeds. -/
structure Shows (options : Options) (geometry : Geometry) (outcome : Outcome) : Prop where
  record : options.json = true → outcome.stdout = (Record.ofGeometry geometry).text ++ "\n"
  summary : options.json = false → ∃ printed, Summarizes printed geometry ∧
    outcome.stdout = joinLines printed ∧
    lines outcome.stdout.toList = printed.map String.toList ∧
    outcome.log.filterMap reported? = [(printed.map (statedTotal ·.toList)).sum]
  ending : options.preview = none → outcome.ending = .ok exitDone

theorem present_parts (surface : Surface) (world : World) (options : Options)
    (settings : Settings) (text : String) (requests : List Request) :
    let outcome := present surface world options settings text requests
    let geometry := Geometry.ofText settings text none
    (outcome.stdout = if options.json then (Record.ofGeometry geometry).text ++ "\n"
      else joinLines (summary geometry)) ∧
    (∃ drawing : List Log.Line, drawing.filterMap reported? = [] ∧
      outcome.log = kept options.verbose
        (interpretationLog (interpret settings text) ++ drawing)) ∧
    (options.preview = none → outcome.ending = .ok exitDone) := by
  have stdout := printed_eq options.json (.ofText settings text none)
  rw [Geometry.ofText, Option.getD_none] at stdout
  dsimp only [present]
  rw [stdout]
  cases options.preview with
  | none => exact ⟨rfl, ⟨[], rfl, by rw [List.append_nil]⟩, fun _ => rfl⟩
  | some target =>
      exact ⟨rfl, ⟨_, filterMap_writePreview surface _ _ _, rfl⟩, fun absent => by contradiction⟩

theorem shows_present (surface : Surface) (world : World) (options : Options)
    (settings : Settings) (text : String) (requests : List Request) :
    Shows options (.ofText settings text none)
      (present surface world options settings text requests) := by
  obtain ⟨stdout, ⟨drawing, silent, log⟩, ending⟩ :=
    present_parts surface world options settings text requests
  refine ⟨fun json => ?_, fun plain => ?_, ending⟩
  · rw [stdout, if_pos json]
  · rw [plain, if_neg Bool.false_ne_true] at stdout
    refine ⟨_, summarizes_summary _, stdout, ?_, ?_⟩
    · rw [stdout, lines_joinLines (unbroken_summary _)]
    · rw [log, filterMap_kept, List.filterMap_append, filterMap_interpretationLog, silent,
        List.append_nil, moves_interpret, sum_stated_summary]
      rfl

theorem run_of_readable {world : World} {environment : Option String} {arguments : List String}
    {options : Options} {settings : Settings} {text : String}
    (asked : parse arguments = .run options) (asks : Asks options environment settings)
    (readable : world.load (.text options.source) Loader.standardTimeout = .ok text) :
    run world environment arguments = present .standard world options settings text
      (World.request? (.text options.source) Loader.standardTimeout).toList := by
  rw [run, runWith, asked]
  dsimp only
  rw [execute, settingsOf_of_asks asks]
  dsimp only
  rw [readable]

/-- The command line agrees with the interpretation of a text: flags and an offset are taken as they
are spelled, and whatever arguments ask for settings, a run on a text that can be read shows the
geometry of the text under those settings. -/
theorem run_agrees (world : World) (environment : Option String) :
    (∀ (chosen : Switch → Bool) (offset? : Option (String × Numeral)) (source : String),
      (∀ offset ∈ offset?, Numeral.whole? offset.1.toList = some offset.2) →
      parse (spelled chosen (offset?.map (·.1)) source) =
        .run (wanted chosen (offset?.map (·.2.value)) source)) ∧
    ∀ arguments options settings text, parse arguments = .run options →
      Asks options environment settings →
      world.load (.text options.source) Loader.standardTimeout = .ok text →
      Shows options (.ofText settings text none) (run world environment arguments) := by
  refine ⟨fun chosen _ source read => parse_spelled chosen read source, ?_⟩
  intro arguments options settings text asked asks readable
  rw [run_of_readable asked asks readable]
  exact shows_present .standard world options settings text _

theorem run_agrees_of_flat :
    let text := "T1 G1 X7 E1"
    let bytes := encodeUtf8 text.toList
    let world : World :=
      ⟨⟨[(["part.gcode"], .file bytes)], []⟩, "/home", fun _ => .failed "offline"⟩
    let arguments := ["--flat", "--travel-layers", "--tool-offset=5", "--", "part.gcode"]
    ∃ (settings : Settings) (options : Options), settings.toolOffset = 5 ∧
      settings.splitLayers = false ∧ settings.travelStartsLayer = true ∧
      parse arguments = .run options ∧ Asks options none settings ∧
      world.load (.text options.source) Loader.standardTimeout = .ok text ∧
      Shows options (.ofText settings text none) (run world none arguments) := by
  intro text bytes world arguments
  let numeral : Numeral := .decimal ⟨false, 5, 0⟩
  let chosen : Switch → Bool := fun switch => switch = .flat || switch = .travelLayers
  let settings : Settings := ⟨false, 5, true, by decide +kernel⟩
  have value : numeral.value = (5 : Double) := by decide +kernel
  have read : ∀ offset ∈ some ("5", numeral), Numeral.whole? offset.1.toList = some offset.2 := by
    rintro _ ⟨⟩
    decide +kernel
  have same : spelled chosen (some "5") "part.gcode" = arguments := by decide +kernel
  obtain ⟨spells, agrees⟩ := run_agrees world none
  have asked : parse arguments = .run (wanted chosen (some 5) "part.gcode") := by
    rw [← same, ← value]
    exact spells chosen (some ("5", numeral)) "part.gcode" read
  have asks : Asks (wanted chosen (some 5) "part.gcode") none settings := ⟨rfl, rfl, .inl rfl⟩
  have held : world.Holds (.text "part.gcode") bytes := by
    have parsed : Path.parse (Source.text "part.gcode").trimmed = ⟨.relative, ["part.gcode"]⟩ := by
      decide +kernel
    refine ⟨by decide +kernel, by decide +kernel, ⟨.relative, ["part.gcode"]⟩, ?_, rfl⟩
    rw [parsed]
    rfl
  have readable : world.load (.text "part.gcode") Loader.standardTimeout = .ok text := by
    have plain : String.ofList (withLineFeeds text.toList) = text := by decide
    rw [held.load, decodeUtf8_encodeUtf8, plain]
  exact ⟨settings, _, rfl, rfl, rfl, asked, asks, readable, agrees _ _ _ _ asked asks readable⟩

end Toolpath.CommandLine
