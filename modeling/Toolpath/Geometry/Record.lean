import Toolpath.Geometry
import Toolpath.Number.Written

/-! Records: geometry as it is exported, and the JSON text of it. A coordinate that is not finite
becomes null. -/

namespace Toolpath

def exported (number : Double) : Option Double := if number.isFinite then some number else none

structure CoordinateLists where
  extruded : List (Option Double)
  support : List (Option Double)
  travel : List (Option Double)
deriving DecidableEq

namespace CoordinateLists

def ofSegments (segments : Kind → List Segment) : CoordinateLists :=
  let coordinates kind := ((segments kind).flatMap Segment.coordinates).map exported
  ⟨coordinates .extruded, coordinates .support, coordinates .travel⟩

def get (lists : CoordinateLists) : Kind → List (Option Double)
  | .extruded => lists.extruded
  | .support => lists.support
  | .travel => lists.travel

end CoordinateLists

structure LayerRecord where
  z : Option Double
  coordinates : CoordinateLists
deriving DecidableEq

namespace LayerRecord

def ofLayer (layer : Layer) : LayerRecord := ⟨exported layer.z, .ofSegments layer.segments⟩

end LayerRecord

inductive Record where
  | split (layers : List LayerRecord)
  | flat (layerCount : Nat) (coordinates : CoordinateLists)
deriving DecidableEq

namespace Record

def ofFlattened (flattened : Flattened) : Record :=
  flat flattened.layerCount (.ofSegments flattened.segments)

def ofGeometry (geometry : Geometry) : Record :=
  match geometry.flattened? with
  | some flattened => ofFlattened flattened
  | none => split (geometry.layers.map LayerRecord.ofLayer)

def numbers : Record → List Double
  | split layers => layers.flatMap fun layer =>
    layer.z.toList ++ (Kind.all.flatMap layer.coordinates.get).reduceOption
  | flat _ coordinates => (Kind.all.flatMap coordinates.get).reduceOption

end Record

namespace Json

def number : Option Double → String
  | some value => value.shortestText
  | none => "null"

def separated (items : List String) : String := ", ".intercalate items

def array (items : List String) : String := "[" ++ separated items ++ "]"

def object (members : List (String × String)) : String :=
  "\x7b" ++ separated (members.map fun (key, value) => "\"" ++ key ++ "\": " ++ value) ++ "\x7d"

end Json

namespace CoordinateLists

def members (lists : CoordinateLists) : List (String × String) :=
  Kind.all.map fun kind => (kind.name, Json.array ((lists.get kind).map Json.number))

end CoordinateLists

namespace LayerRecord

def text (layer : LayerRecord) : String :=
  Json.object (("z", Json.number layer.z) :: layer.coordinates.members)

end LayerRecord

namespace Record

def text : Record → String
  | split layers => Json.object [("split_layer", "true"), ("layer_count", toString layers.length),
      ("layers", Json.array (layers.map LayerRecord.text))]
  | flat layerCount coordinates => Json.object (("split_layer", "false") ::
      ("layer_count", toString layerCount) :: coordinates.members)

/-- The JSON text of a record, unless it holds a number that JSON cannot write. -/
def strictText? (record : Record) : Option String :=
  if record.numbers.all Binary.isFinite then some record.text else none

end Record

end Toolpath
