import Toolpath.Segment

/-! Layers, and the stack that they are recorded on. -/

namespace Toolpath

structure Layer where
  z : Double
  extruded : Array Segment
  support : Array Segment
  travel : Array Segment
deriving DecidableEq

namespace Layer

def empty (z : Double) : Layer := ⟨z, #[], #[], #[]⟩

def add (layer : Layer) (segment : Segment) : Layer :=
  match segment.kind with
  | .extruded => { layer with extruded := layer.extruded.push segment }
  | .support => { layer with support := layer.support.push segment }
  | .travel => { layer with travel := layer.travel.push segment }

def segments (layer : Layer) : Kind → List Segment
  | .extruded => layer.extruded.toList
  | .support => layer.support.toList
  | .travel => layer.travel.toList

def count (layer : Layer) : Nat := layer.extruded.size + layer.support.size + layer.travel.size

def isEmpty (layer : Layer) : Bool := layer.count = 0

@[simp] theorem z_empty (z : Double) : (empty z).z = z := rfl

@[simp] theorem segments_empty (z : Double) (kind : Kind) : (empty z).segments kind = [] := by
  cases kind <;> rfl

@[simp] theorem count_empty (z : Double) : (empty z).count = 0 := rfl

@[simp] theorem z_add (layer : Layer) (segment : Segment) : (layer.add segment).z = layer.z := by
  unfold add
  split <;> rfl

@[simp] theorem segments_add (layer : Layer) (segment : Segment) (kind : Kind) :
    (layer.add segment).segments kind =
      layer.segments kind ++ if segment.kind = kind then [segment] else [] := by
  unfold add
  cases kind <;> split <;> simp_all [segments]

@[simp] theorem count_add (layer : Layer) (segment : Segment) :
    (layer.add segment).count = layer.count + 1 := by
  unfold add count
  split <;> simp only [Array.size_push] <;> omega

end Layer

/-- Layers under construction. The current one is kept apart from the list, by its place in it. -/
structure Stack where
  recorded : Array Layer
  current : Option Nat
  current_lt : ∀ place ∈ current, place < recorded.size
deriving DecidableEq

namespace Stack

def empty : Stack := ⟨#[], none, by simp⟩

def layers (stack : Stack) : List Layer := stack.recorded.toList

def current? (stack : Stack) : Option Layer := stack.current.bind (stack.recorded[·]?)

def startLayer (stack : Stack) (z : Double) : Stack :=
  ⟨stack.recorded.push (.empty z), some stack.recorded.size, by simp⟩

/-- Tells whether recording at a height calls for a new layer. A height that is not a number is
never the current one. -/
def needsLayerAt (stack : Stack) (z : Double) : Bool :=
  match stack.current? with
  | none => true
  | some layer => !z.equals layer.z

def fill (stack : Stack) (segment : Segment) : Stack :=
  match stack.current with
  | none => stack
  | some place =>
    { stack with
      recorded := stack.recorded.modify place (·.add segment)
      current_lt := by simpa using stack.current_lt }

/-- Adds a segment to the current layer; the very first one opens a layer at the height it starts
from. -/
def add (stack : Stack) (segment : Segment) : Stack :=
  if stack.current.isNone then (stack.startLayer segment.start.z).fill segment
  else stack.fill segment

end Stack

end Toolpath
