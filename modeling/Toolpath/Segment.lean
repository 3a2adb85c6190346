import Toolpath.Number.Binary
import Toolpath.Text.Quoted

/-!
Segments: straight moves between two points, classified by what the tool left behind.
-/

namespace Toolpath

structure Point where
  x : Double
  y : Double
  z : Double
deriving DecidableEq

namespace Point

def coordinates (point : Point) : List Double := [point.x, point.y, point.z]

end Point

/-- What a move leaves: the second tool extrudes the part, the first one its support, and a move
without extrusion only travels. -/
inductive Kind where
  | extruded
  | support
  | travel
deriving DecidableEq

namespace Kind

def all : List Kind := [extruded, support, travel]

def name : Kind → String
  | extruded => "extruded"
  | support => "support"
  | travel => "travel"

def ofName? (name : String) : Option Kind := all.find? (·.name = name)

def unknownMessage (name : String) : String :=
  Text.quoted name ++ " is not a valid SegmentKind"

def ofMove (extruding : Bool) (tool : Int) : Kind :=
  if extruding && tool = 1 then extruded
  else if extruding && tool = 0 then support
  else travel

end Kind

structure Segment where
  start : Point
  stop : Point
  kind : Kind
deriving DecidableEq

namespace Segment

def coordinates (segment : Segment) : List Double :=
  segment.start.coordinates ++ segment.stop.coordinates

end Segment

end Toolpath
