import Toolpath.Geometry
import Toolpath.Log
import Toolpath.Source

/-! Loaders acquire a program, interpret it, and hand the geometry to a consumer. A failure that a
loader handles goes to the error handler if there is one, and to the log otherwise. -/

namespace Toolpath

inductive Failure where
  | acquisition (cause : AcquisitionError)
  | consumer (cause : Raised)
deriving DecidableEq

namespace Failure

def message : Failure → String
  | acquisition cause => cause.message
  | consumer cause => cause.message

end Failure

inductive Escape where
  | loading (cause : LoadError)
  | handler (cause : Raised)
deriving DecidableEq

namespace Escape

def message : Escape → String
  | loading cause => cause.message
  | handler cause => cause.message

end Escape

/-- What to do with a geometry and with a failure. Each handler may raise a failure of its own. -/
structure Handlers where
  onLoad : Geometry → Option Raised
  onError : Option (Failure → Option Raised)

structure LoadResult where
  delivered : List Geometry
  reported : List Failure
  logged : List Failure
  ending : Except Escape (Option Geometry)

structure Loader where
  settings : Settings
  timeout : Double
deriving DecidableEq

namespace Loader

def standardTimeout : Double := 30

def logLine (source : Source) : Log.Line :=
  ⟨.error, .loader, "Failed to load toolpath " ++ source.toText⟩

def report (handlers : Handlers) (delivered : List Geometry) (failure : Failure) : LoadResult :=
  match handlers.onError with
  | none => ⟨delivered, [], [failure], .ok none⟩
  | some handle =>
    match handle failure with
    | none => ⟨delivered, [failure], [], .ok none⟩
    | some cause => ⟨delivered, [failure], [], .error (.handler cause)⟩

def geometry (loader : Loader) (text : String) : Geometry := .ofText loader.settings text none

def deliver (loader : Loader) (handlers : Handlers) (text : String) : LoadResult :=
  let geometry := loader.geometry text
  match handlers.onLoad geometry with
  | none => ⟨[geometry], [], [], .ok (some geometry)⟩
  | some cause => report handlers [geometry] (.consumer cause)

def load (loader : Loader) (world : World) (handlers : Handlers) (source : Source) : LoadResult :=
  match world.load source loader.timeout with
  | .ok text => loader.deliver handlers text
  | .error (.acquisition cause) => report handlers [] (.acquisition cause)
  | .error cause => ⟨[], [], [], .error (.loading cause)⟩

end Loader

end Toolpath
