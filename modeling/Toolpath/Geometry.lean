import Toolpath.Machine

/-!
Geometry: the layers of a program, kept apart or flattened into one list of segments for each kind.
-/

namespace Toolpath

structure Flattened where
  extruded : List Segment
  support : List Segment
  travel : List Segment
  layerCount : Nat
deriving DecidableEq

namespace Flattened

def ofLayers (layers : List Layer) : Flattened :=
  { extruded := layers.flatMap (·.segments .extruded)
    support := layers.flatMap (·.segments .support)
    travel := layers.flatMap (·.segments .travel)
    layerCount := layers.length }

def segments (flattened : Flattened) : Kind → List Segment
  | .extruded => flattened.extruded
  | .support => flattened.support
  | .travel => flattened.travel

theorem segments_ofLayers (layers : List Layer) (kind : Kind) :
    (ofLayers layers).segments kind = layers.flatMap (·.segments kind) := by
  cases kind <;> rfl

end Flattened

/-- Layers together with the form in which they are presented. -/
structure Geometry where
  layers : List Layer
  splitLayers : Bool
deriving DecidableEq

namespace Geometry

def flattened? (geometry : Geometry) : Option Flattened :=
  if geometry.splitLayers then none else some (.ofLayers geometry.layers)

def heights (geometry : Geometry) : List Double := geometry.layers.map Layer.z

def count (geometry : Geometry) (kind : Kind) : Nat :=
  (geometry.layers.flatMap (·.segments kind)).length

def ofText (settings : Settings) (text : String) (splitLayers? : Option Bool) : Geometry :=
  ⟨(interpret settings text).layers, splitLayers?.getD settings.splitLayers⟩

end Geometry

end Toolpath
