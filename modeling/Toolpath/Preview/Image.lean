import Toolpath.Preview.Png
import Toolpath.Preview.Surface

/-! Images: previews that a surface has carried out and that are ready to be written. -/

namespace Toolpath

inductive ImageError where
  | preview (cause : PreviewError)
  | surface (cause : SurfaceError)
  | rowTooLong
deriving DecidableEq

namespace ImageError

def message : ImageError → String
  | preview cause => cause.message
  | surface cause => cause.message
  | rowTooLong => ""

end ImageError

structure Image where
  summary : PreviewSummary
  head : List UInt8
deriving DecidableEq

namespace Image

def ofSummary (summary : PreviewSummary) : Image := ⟨summary, Png.head summary.canvas⟩

end Image

namespace Preview

def imageOn (surface : Surface) (options : PreviewOptions) (geometry : Geometry) :
    Except ImageError Image := do
  let rendering := render options geometry
  (surface.acceptAll rendering.calls).mapError ImageError.surface
  let summary ← rendering.ending.mapError ImageError.preview
  if surface.writes summary.canvas then .ok (.ofSummary summary) else .error .rowTooLong

def image : PreviewOptions → Geometry → Except ImageError Image := imageOn .standard

def encoded (surface : Surface) (options : PreviewOptions) (geometry : Geometry) :
    Except ImageError (List UInt8) := do
  return (← imageOn surface options geometry).head ++
    surface.pixels (render options geometry).calls

end Preview

end Toolpath
