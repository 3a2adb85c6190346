import Toolpath.Geometry

/-!
Vertices in single precision, buffers of edges, and the box around them. Rounding a point may make a
coordinate infinite; a buffer keeps such edges until `Buffer.finite` drops them.
-/

namespace Toolpath

structure Vertex where
  x : Single
  y : Single
  z : Single
deriving DecidableEq

namespace Vertex

def ofPoint (point : Point) : Vertex :=
  ⟨point.x.toFormat .single, point.y.toFormat .single, point.z.toFormat .single⟩

def isFinite (vertex : Vertex) : Bool :=
  vertex.x.isFinite && vertex.y.isFinite && vertex.z.isFinite

theorem isFinite_iff {vertex : Vertex} : vertex.isFinite = true ↔
    vertex.x.isFinite = true ∧ vertex.y.isFinite = true ∧ vertex.z.isFinite = true := by
  simp only [isFinite, Bool.and_eq_true, and_assoc]

def weighted (vertex : Vertex) (x y z : Single) : Single :=
  vertex.x * x + vertex.y * y + vertex.z * z

/-- The vertex turned a quarter about X, so that what pointed along Z points along Y. Every
component is a full sum of products: one that is not finite spoils the components it does not enter,
too. -/
def turned (vertex : Vertex) : Vertex :=
  ⟨vertex.weighted 1 0 0, vertex.weighted 0 0 1, vertex.weighted 0 (-1) 0⟩

def unsignedZeros (vertex : Vertex) : Vertex :=
  ⟨vertex.x.unsignedZero, vertex.y.unsignedZero, vertex.z.unsignedZero⟩

def zipWith (combine : Single → Single → Single) (left right : Vertex) : Vertex :=
  ⟨combine left.x right.x, combine left.y right.y, combine left.z right.z⟩

end Vertex

structure Edge where
  start : Vertex
  stop : Vertex
deriving DecidableEq

namespace Edge

def ofSegment (yUp : Bool) (segment : Segment) : Edge :=
  let place point := if yUp then (Vertex.ofPoint point).turned else Vertex.ofPoint point
  ⟨place segment.start, place segment.stop⟩

def vertices (edge : Edge) : List Vertex := [edge.start, edge.stop]

def isFinite (edge : Edge) : Bool := edge.start.isFinite && edge.stop.isFinite

theorem isFinite_iff {edge : Edge} :
    edge.isFinite = true ↔ ∀ vertex ∈ edge.vertices, vertex.isFinite = true := by
  simp [isFinite, vertices]

end Edge

structure Buffer where
  name : String
  kind : Kind
  edges : List Edge
deriving DecidableEq

namespace Buffer

def ofSegments (name : String) (kind : Kind) (yUp : Bool) (segments : List Segment) : Buffer :=
  ⟨name, kind, segments.map (Edge.ofSegment yUp)⟩

def vertices (buffer : Buffer) : List Vertex := buffer.edges.flatMap Edge.vertices

def count (buffer : Buffer) : Nat := buffer.edges.length

def finite (buffer : Buffer) : Buffer := { buffer with edges := buffer.edges.filter Edge.isFinite }

def nameOf (index : Nat) : String := "layer" ++ toString index

/-- Three buffers for each layer, or three in all when the geometry is flattened; those are named
after the number of layers. -/
def ofGeometry (geometry : Geometry) (yUp : Bool) : List Buffer :=
  match geometry.flattened? with
  | some flattened => Kind.all.map fun kind =>
      ofSegments (nameOf flattened.layerCount) kind yUp (flattened.segments kind)
  | none => geometry.layers.zipIdx.flatMap fun (layer, index) => Kind.all.map fun kind =>
      ofSegments (nameOf index) kind yUp (layer.segments kind)

end Buffer

structure Box where
  low : Vertex
  high : Vertex
deriving DecidableEq

namespace Box

def around (vertex : Vertex) : Box := ⟨vertex, vertex⟩

def extend (box : Box) (vertex : Vertex) : Box :=
  ⟨box.low.zipWith .lesser vertex, box.high.zipWith .greater vertex⟩

def ofVertices? : List Vertex → Option Box
  | [] => none
  | first :: rest => some (rest.foldl extend (around first))

def ofBuffers? (buffers : List Buffer) : Option Box :=
  ofVertices? ((buffers.flatMap Buffer.vertices).filter Vertex.isFinite)

end Box

end Toolpath
