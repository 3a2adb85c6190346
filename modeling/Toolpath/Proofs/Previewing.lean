import Toolpath.Proofs.Agreement
import Toolpath.Proofs.Writing

/-! What asking for a preview adds to a run, and what it leaves alone. -/

namespace Toolpath.CommandLine

open Text

def Options.orPreview (target : Given String) (options : Options) : Options :=
  { options with preview := some (options.preview.getD target) }

def Reading.orPreview (target : Given String) (reading : Reading) : Reading :=
  { reading with options := reading.options.orPreview target }

def Parsed.orPreview (target : Given String) : Parsed → Parsed
  | .run options => .run (options.orPreview target)
  | .help => .help
  | .error cause => .error cause

namespace Reading

variable (target : Given String) (reading : Reading)

@[simp] theorem hasSource_orPreview : (reading.orPreview target).hasSource = reading.hasSource :=
  rfl

@[simp] theorem addExtra_orPreview (word : String) :
    (reading.orPreview target).addExtra word = (reading.addExtra word).orPreview target := rfl

@[simp] theorem setSource_orPreview (source : String) :
    (reading.orPreview target).setSource source = (reading.setSource source).orPreview target := rfl

@[simp] theorem turnOn_orPreview (switch : Switch) :
    (reading.orPreview target).turnOn switch = (reading.turnOn switch).orPreview target := by
  cases switch <;> rfl

@[simp] theorem setValue_orPreview (switch : Switch) (value : String) :
    (reading.orPreview target).setValue switch value =
      (reading.setValue switch value).map (orPreview target) := by
  cases switch with
  | toolOffset =>
      simp only [setValue]
      cases Given.ofText value with
      | nothing => rfl
      | value text => cases read : Numeral.whole? text.toList <;> simp only [read] <;> rfl
  | _ => rfl

@[simp] theorem act_orPreview (switches : List Switch) :
    (reading.orPreview target).act switches = (reading.act switches).map (orPreview target) := by
  have turned : switches.foldl turnOn (reading.orPreview target) =
      (switches.foldl turnOn reading).orPreview target := by
    induction switches generalizing reading with
    | nil => rfl
    | cons switch rest ih => rw [List.foldl_cons, turnOn_orPreview, ih, List.foldl_cons]
  rw [act, act, turned]
  split <;> rfl

@[simp] theorem finish_orPreview :
    (reading.orPreview target).finish = reading.finish.orPreview target := by
  rw [finish, finish, apply_ite (Parsed.orPreview target), apply_ite (Parsed.orPreview target)]
  rfl

end Reading

theorem readWords_orPreview (target : Given String) (words : List Word) (expected : Expectation)
    (reading : Reading) :
    readWords words expected (reading.orPreview target) =
      (readWords words expected reading).orPreview target := by
  fun_induction readWords words expected reading
  case case6 rest expectation reading plain placeless ih =>
    rw [← ih, apply_ite (Reading.orPreview target), readWords]
    · rfl
    · exact plain
  all_goals simp_all [readWords, Except.map, Parsed.orPreview]

/-- An option for a preview in front of some arguments asks for a preview, unless they name one
themselves, and for nothing else. -/
theorem parse_previewed (target : String) (arguments : List String) :
    parse (("--preview=" ++ target) :: arguments) =
      (parse arguments).orPreview (.ofText target) := by
  rw [parse, parse, Word.classifyAll_assigned (by decide : ("--preview", .preview) ∈ valued) target
    (by simp)]
  cases Word.classifyAll arguments with
  | error cause => rfl
  | ok words =>
      have asked : readWords (.option .preview false (some target) :: words) .any .initial =
          readWords words .any (Reading.initial.orPreview (.ofText target)) := by
        rw [readWords]
        · rfl
        · simp
      exact asked.trans (readWords_orPreview (.ofText target) words .any .initial)

section Runs

variable (surface : Surface) (world : World) (environment : Option String)

theorem stdout_execute (options : Options) (wish : Option (Given String)) :
    (execute surface world environment { options with preview := wish }).stdout =
      (execute surface world environment options).stdout := by
  have same : settingsOf environment { options with preview := wish } =
      settingsOf environment options := rfl
  rw [execute, execute, same]
  cases settingsOf environment options with
  | error cause => rfl
  | ok settings =>
      dsimp only
      cases loaded : world.load (.text options.source) Loader.standardTimeout with
      | error cause => cases cause <;> rfl
      | ok text =>
          exact (present_parts surface world _ settings text _).1.trans
            (present_parts surface world options settings text _).1.symm

theorem receives_writeImage {files : FileTree} {target : Path} {image : Image}
    {bytes : List UInt8} {status : Int}
    (ended : (writeImage files target image bytes).ending = .ok status) :
    status = exitDone ∧ files.Receives target (image.head ++ bytes)
      (writeImage files target image bytes).files := by
  have receives := files.receives_writeDeep target (image.head ++ bytes)
  unfold writeImage at ended ⊢
  dsimp only at ended ⊢
  split at receives
  · rename_i written
    simp only [written] at ended ⊢
    exact ⟨(Except.ok.inj ended).symm, receives⟩
  · rename_i failed
    simp only [failed] at ended
    contradiction

theorem receives_writePreview {files : FileTree} {target : Given String} {geometry : Geometry}
    {status : Int} (ended : (writePreview surface files target geometry).ending = .ok status) :
    (status = exitFailed ∧ (writePreview surface files target geometry).files = files) ∨
      status = exitDone ∧ ∃ text bytes, target = .value text ∧
        Preview.encoded surface .standard geometry = .ok bytes ∧
        files.Receives (Path.parse text) bytes
          (writePreview surface files target geometry).files := by
  unfold writePreview at ended ⊢
  split at ended
  · exact .inl ⟨(Except.ok.inj ended).symm, rfl⟩
  · contradiction
  · rename_i image drawn
    split at ended
    · contradiction
    · rename_i text
      obtain ⟨done, receives⟩ := receives_writeImage ended
      have encoded : Preview.encoded surface .standard geometry =
          .ok (image.head ++ surface.pixels (Preview.render .standard geometry).calls) := by
        rw [Preview.encoded, drawn]
        rfl
      exact .inr ⟨done, text, _, rfl, encoded, receives⟩

theorem present_of_ok {options : Options} {settings : Settings} {text : String}
    {requests : List Request} {status : Int}
    (ended : (present surface world options settings text requests).ending = .ok status) :
    (status = exitFailed ∧
      (present surface world options settings text requests).files = world.files) ∨
    status = exitDone ∧ ∀ given ∈ options.preview, ∃ target bytes, given = .value target ∧
      Preview.encoded surface .standard (.ofText settings text none) = .ok bytes ∧
      world.files.Receives (Path.parse target) bytes
        (present surface world options settings text requests).files := by
  rw [Geometry.ofText, Option.getD_none]
  unfold present at ended ⊢
  dsimp only at ended ⊢
  split at ended
  · contradiction
  · cases asked : options.preview with
    | none =>
        simp only [asked] at ended
        exact .inr ⟨(Except.ok.inj ended).symm, by simp⟩
    | some given =>
        simp only [asked] at ended
        refine (receives_writePreview surface ended).imp_right (And.imp_right fun written => ?_)
        rintro _ ⟨⟩
        exact written

/-- Holds of the files in which a target holds the image of the geometry that was read, and every
other file what the world has there. -/
def HoldsPreview (options : Options) (target : String) (files : FileTree) : Prop :=
  ∃ settings text bytes, settingsOf environment options = .ok settings ∧
    world.load (.text options.source) Loader.standardTimeout = .ok text ∧
    Preview.encoded surface .standard (.ofText settings text none) = .ok bytes ∧
    world.files.Receives (Path.parse target) bytes files

theorem execute_of_ok {options : Options} {status : Int}
    (ended : (execute surface world environment options).ending = .ok status) :
    (status = exitFailed ∧ (execute surface world environment options).files = world.files) ∨
      status = exitDone ∧ ∀ given ∈ options.preview, ∃ target, given = .value target ∧
        HoldsPreview surface world environment options target
          (execute surface world environment options).files := by
  unfold execute at ended ⊢
  split at ended
  · contradiction
  · rename_i settings set
    dsimp only at ended ⊢
    split at ended
    · exact .inl ⟨(Except.ok.inj ended).symm, rfl⟩
    · contradiction
    · rename_i text read
      refine (present_of_ok surface world ended).imp_right (And.imp_right fun written => ?_)
      intro given asked
      obtain ⟨target, bytes, named, drawn, receives⟩ := written given asked
      exact ⟨target, named, settings, text, bytes, set, read, drawn, receives⟩

end Runs

/-- Previewing adds to a run and changes nothing else of it. Whatever becomes of a preview, the run
prints what it prints without one. A run that fails leaves the files alone, and one that is done has
written the image of the geometry to the target and kept what all other files hold. -/
theorem preview_only_adds (surface : Surface) (world : World) (environment : Option String) :
    (∀ target arguments,
      parse (("--preview=" ++ target) :: arguments) =
        (parse arguments).orPreview (.ofText target) ∧
      (runWith surface world environment (("--preview=" ++ target) :: arguments)).stdout =
        (runWith surface world environment arguments).stdout) ∧
    (∀ arguments others options wish, parse arguments = .run options →
      parse others = .run { options with preview := wish } →
      (runWith surface world environment others).stdout =
        (runWith surface world environment arguments).stdout) ∧
    (∀ arguments, (runWith surface world environment arguments).ending = .ok exitFailed →
      (runWith surface world environment arguments).files = world.files) ∧
    ∀ arguments options given, parse arguments = .run options → options.preview = some given →
      (runWith surface world environment arguments).ending = .ok exitDone →
      ∃ target, given = .value target ∧ HoldsPreview surface world environment options target
        (runWith surface world environment arguments).files := by
  refine ⟨fun target arguments => ⟨parse_previewed target arguments, ?_⟩, ?_, ?_, ?_⟩
  · rw [runWith, runWith, parse_previewed]
    cases parse arguments with
    | run options => exact stdout_execute surface world environment options _
    | help => rfl
    | error cause => rfl
  · intro arguments others options wish plain previewed
    rw [runWith, runWith, plain, previewed]
    exact stdout_execute surface world environment options wish
  · intro arguments ended
    unfold runWith at ended ⊢
    split at ended
    · rfl
    · rfl
    · obtain ⟨-, kept⟩ | ⟨done, -⟩ := execute_of_ok surface world environment ended
      · exact kept
      · contradiction
  · intro arguments options given asked wanted ended
    rw [runWith, asked] at ended ⊢
    obtain ⟨failed, -⟩ | ⟨-, written⟩ := execute_of_ok surface world environment ended
    · contradiction
    · exact written given wanted

theorem preview_only_adds_of_line :
    let bytes := encodeUtf8 "G1 X7 E1".toList
    let world : World :=
      ⟨⟨[(["part.gcode"], .file bytes)], []⟩, "/home", fun _ => .failed "offline"⟩
    let options : Options := ⟨"part.gcode", false, false, none, none, false, false⟩
    let wish := some (Given.value "out/part.png")
    let plain := runWith .standard world none ["part.gcode"]
    let previewed := runWith .standard world none ["part.gcode", "--preview", "out/part.png"]
    let failed := runWith .standard world none ["--preview=out/part.png", "other.gcode"]
    parse ["part.gcode"] = .run options ∧
      parse ["part.gcode", "--preview", "out/part.png"] = .run { options with preview := wish } ∧
      previewed.stdout = plain.stdout ∧ previewed.ending = .ok exitDone ∧
      HoldsPreview .standard world none { options with preview := wish } "out/part.png"
        previewed.files ∧
      failed.ending = .ok exitFailed ∧ failed.files = world.files := by
  intro bytes world options wish plain previewed failed
  obtain ⟨-, prints, fails, writes⟩ := preview_only_adds .standard world none
  have unasked : parse ["part.gcode"] = .run options := by decide +kernel
  have asked : parse ["part.gcode", "--preview", "out/part.png"] =
      .run { options with preview := wish } := by decide +kernel
  have done : previewed.ending = .ok exitDone := by decide +kernel
  have missing : failed.ending = .ok exitFailed := by decide +kernel
  obtain ⟨target, same, held⟩ := writes _ _ _ asked rfl done
  cases same
  exact ⟨unasked, asked, prints _ _ _ _ unasked asked, done, held, missing, fails _ missing⟩

end Toolpath.CommandLine
