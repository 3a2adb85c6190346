import Toolpath.CommandLine.Help
import Toolpath.CommandLine.Options
import Toolpath.Geometry.Record
import Toolpath.Loader
import Toolpath.Preview.Image

/-! A run of the command line is a function of the arguments and of the world: what is printed and
logged, the files it leaves, and how it ends. -/

namespace Toolpath.CommandLine

inductive Crash where
  | settings (cause : SettingsError)
  | loading (cause : LoadError)
  | image (cause : ImageError)
  | targetMissing
  | file (cause : FileError)
  | numberNotFinite
deriving DecidableEq

namespace Crash

def message : Crash → String
  | settings cause => cause.message
  | loading cause => cause.message
  | image cause => cause.message
  | targetMissing => "'list' object has no attribute 'parent'"
  | file cause => cause.message
  | numberNotFinite => "Out of range float values are not JSON compliant"

end Crash

structure Outcome where
  ending : Except Crash Int
  stdout : String
  usage : String
  log : List Log.Line
  files : FileTree
  requests : List Request

namespace Outcome

def stderr (outcome : Outcome) : String :=
  outcome.usage ++ joinLines (outcome.log.map Log.Line.text)

end Outcome

def exitDone : Int := 0
def exitFailed : Int := 1
def exitUsage : Int := 2

def offsetArgument : Given Double → Argument
  | .value offset => .number (.real offset)
  | .nothing => .list true

def settingsOf (environment : Option String) (options : Options) : Except SettingsError Settings :=
  Settings.resolve environment
    ⟨some (.flag !options.flat), options.toolOffset.map offsetArgument,
      some (.flag options.travelLayers)⟩

def countsText (count : Kind → Nat) : String :=
  ", ".intercalate (Kind.all.map fun kind => kind.name ++ " " ++ toString (count kind))

def summary (geometry : Geometry) : List String :=
  match geometry.flattened? with
  | some flattened =>
    [toString flattened.layerCount ++ " layers: " ++
      countsText fun kind => (flattened.segments kind).length]
  | none => geometry.layers.zipIdx.map fun (layer, index) =>
      "layer " ++ toString index ++ " z=" ++ layer.z.summaryText ++ ": " ++
        countsText fun kind => (layer.segments kind).length

def printed (json : Bool) (geometry : Geometry) : Option String :=
  if json then (Record.ofGeometry geometry).strictText?.map (· ++ "\n")
  else some (joinLines (summary geometry))

def kept (verbose : Bool) (log : List Log.Line) : List Log.Line :=
  if verbose then log else log.filter (·.level ≠ .debug)

def note (level : Log.Level) (message : String) : Log.Line := ⟨level, .commandLine, message⟩

def interpretationLog (machine : Machine) : List Log.Line :=
  let diagnostics := machine.diagnostics
  let unsupported := diagnostics.unsupported.length
  let malformed := diagnostics.malformed.size
  diagnostics.log ++
  [note .info ("Parsed " ++ toString diagnostics.lines ++ " lines into " ++
    toString diagnostics.moves ++ " moves across " ++
    toString machine.layers.length ++ " layers")] ++
  (if unsupported = 0 then [] else
    [note .info ("Skipped " ++ toString unsupported ++ " unsupported arc commands")]) ++
  (if malformed = 0 then [] else
    [note .warning ("Found " ++ toString malformed ++ " malformed parameters")])

/-- What writing a preview adds to the log, how it ends, and the files it leaves. -/
structure PreviewOutcome where
  ending : Except Crash Int
  log : List Log.Line
  files : FileTree

def writeImage (files : FileTree) (target : Path) (image : Image) (pixels : List UInt8) :
    PreviewOutcome :=
  let drawn := image.summary.logLine
  match files.writeDeep target (image.head ++ pixels) with
  | (some cause, left) => ⟨.error (.file cause), [drawn], left⟩
  | (none, written) =>
    ⟨.ok exitDone, [drawn, note .info ("Wrote preview to " ++ target.text)], written⟩

/-- Draws the preview of a geometry and writes it. Without anything to draw, nothing is written; a
missing target is noticed only once the image is there. -/
def writePreview (surface : Surface) (files : FileTree) (target : Given String)
    (geometry : Geometry) : PreviewOutcome :=
  match Preview.imageOn surface .standard geometry with
  | .error (.preview .nothingDrawable) =>
    ⟨.ok exitFailed, [note .error PreviewError.nothingDrawable.message], files⟩
  | .error cause => ⟨.error (.image cause), [], files⟩
  | .ok image =>
    match target with
    | .nothing => ⟨.error .targetMissing, [image.summary.logLine], files⟩
    | .value text =>
      writeImage files (Path.parse text) image
        (surface.pixels (Preview.render .standard geometry).calls)

def present (surface : Surface) (world : World) (options : Options) (settings : Settings)
    (text : String) (requests : List Request) : Outcome :=
  let machine := interpret settings text
  let geometry : Geometry := ⟨machine.layers, settings.splitLayers⟩
  let log := interpretationLog machine
  match printed options.json geometry with
  | none =>
    ⟨.error .numberNotFinite, "", "", kept options.verbose log, world.files, requests⟩
  | some stdout =>
    match options.preview with
    | none => ⟨.ok exitDone, stdout, "", kept options.verbose log, world.files, requests⟩
    | some target =>
      let preview := writePreview surface world.files target geometry
      ⟨preview.ending, stdout, "", kept options.verbose (log ++ preview.log), preview.files,
        requests⟩

def execute (surface : Surface) (world : World) (environment : Option String)
    (options : Options) : Outcome :=
  match settingsOf environment options with
  | .error cause => ⟨.error (.settings cause), "", "", [], world.files, []⟩
  | .ok settings =>
    let source := Source.text options.source
    let requests := (World.request? source Loader.standardTimeout).toList
    match world.load source Loader.standardTimeout with
    | .error (.acquisition cause) =>
      ⟨.ok exitFailed, "", "", [note .error cause.message], world.files, requests⟩
    | .error cause => ⟨.error (.loading cause), "", "", [], world.files, requests⟩
    | .ok text => present surface world options settings text requests

/-- The run of some arguments, in which previews are drawn on a surface. -/
def runWith (surface : Surface) (world : World) (environment : Option String)
    (arguments : List String) : Outcome :=
  match parse arguments with
  | .help => ⟨.ok exitDone, help, "", [], world.files, []⟩
  | .error cause =>
    ⟨.ok exitUsage, "", usage ++ programName ++ ": error: " ++ cause.message ++ "\n", [],
      world.files, []⟩
  | .run options => execute surface world environment options

def run (world : World) (environment : Option String) (arguments : List String) : Outcome :=
  runWith .standard world environment arguments

end Toolpath.CommandLine
