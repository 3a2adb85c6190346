import Toolpath.Proofs.Nearest
import Toolpath.Proofs.Turning

/-! Which numbers the rows of a buffer hold. -/

namespace Toolpath

/-- Holds of a point and its coordinates in single precision, each rounded on its own. -/
structure Point.RoundsTo (point : Point) (row : Vertex) : Prop where
  x : point.x.ConvertsTo row.x
  y : point.y.ConvertsTo row.y
  z : point.z.ConvertsTo row.z

/-- Holds of a row and what turning it about X gives: sums of products in single precision, by which
finite coordinates trade places and one that is not finite spoils all three. -/
structure Vertex.QuarterTurned (row turned : Vertex) : Prop where
  x : turned.x = row.x * 1 + row.y * 0 + row.z * 0
  y : turned.y = row.x * 0 + row.y * 0 + row.z * 1
  z : turned.z = row.x * 0 + row.y * (-1) + row.z * 0
  turns : row.TurnsTo turned

inductive Point.Packed (point : Point) : Bool → Vertex → Prop
  | level {row : Vertex} (rounded : point.RoundsTo row) : Packed point false row
  | turned {row turned : Vertex} (rounded : point.RoundsTo row) (turns : row.QuarterTurned turned) :
      Packed point true turned

theorem Point.roundsTo_ofPoint (point : Point) : point.RoundsTo (.ofPoint point) where
  x := Binary.convertsTo_toFormat (by decide) (by decide) point.x
  y := Binary.convertsTo_toFormat (by decide) (by decide) point.y
  z := Binary.convertsTo_toFormat (by decide) (by decide) point.z

theorem Vertex.quarterTurned_turned (row : Vertex) : row.QuarterTurned row.turned :=
  ⟨rfl, rfl, rfl, row.turnsTo_turned⟩

theorem Edge.packed_ofSegment (yUp : Bool) (segment : Segment) :
    segment.start.Packed yUp (ofSegment yUp segment).start ∧
      segment.stop.Packed yUp (ofSegment yUp segment).stop := by
  cases yUp with
  | false => exact ⟨.level segment.start.roundsTo_ofPoint, .level segment.stop.roundsTo_ofPoint⟩
  | true =>
      exact ⟨.turned segment.start.roundsTo_ofPoint (Vertex.quarterTurned_turned _),
        .turned segment.stop.roundsTo_ofPoint (Vertex.quarterTurned_turned _)⟩

namespace Buffer

/-- Holds of a buffer with the segments of one kind: a row for the start and a row for the end of
each, in their order, and no other rows. -/
structure Packs (buffer : Buffer) (name : String) (kind : Kind) (yUp : Bool)
    (segments : List Segment) : Prop where
  name : buffer.name = name
  kind : buffer.kind = kind
  length : buffer.vertices.length = 2 * segments.length
  start : ∀ (index : Nat) (segment : Segment), segments[index]? = some segment →
    ∃ row, buffer.vertices[2 * index]? = some row ∧ segment.start.Packed yUp row
  stop : ∀ (index : Nat) (segment : Segment), segments[index]? = some segment →
    ∃ row, buffer.vertices[2 * index + 1]? = some row ∧ segment.stop.Packed yUp row

theorem packs_ofSegments (name : String) (kind : Kind) (yUp : Bool) (segments : List Segment) :
    (ofSegments name kind yUp segments).Packs name kind yUp segments where
  name := rfl
  kind := rfl
  length := by rw [length_vertices, count, ofSegments, List.length_map]
  start index segment found := by
    refine ⟨(Edge.ofSegment yUp segment).start, ?_, (Edge.packed_ofSegment yUp segment).1⟩
    rw [vertices_even, ofSegments, List.getElem?_map, found]
    rfl
  stop index segment found := by
    refine ⟨(Edge.ofSegment yUp segment).stop, ?_, (Edge.packed_ofSegment yUp segment).2⟩
    rw [vertices_odd, ofSegments, List.getElem?_map, found]
    rfl

end Buffer

/-- Split geometry gives three buffers for each layer, in the order of the layers and of the kinds,
and each packs the segments of its kind. Flattened geometry gives one buffer for each kind, with the
rows of the split ones in the order of the layers, and so with as many segments. -/
theorem buffers_laid_out (layers : List Layer) (yUp : Bool) :
    let split := Buffer.ofGeometry ⟨layers, true⟩ yUp
    let flat := Buffer.ofGeometry ⟨layers, false⟩ yUp
    split.length = 3 * layers.length ∧
      (∀ (index : Nat) (layer : Layer), layers[index]? = some layer →
        ∀ (place : Nat) (kind : Kind), [Kind.extruded, .support, .travel][place]? = some kind →
          ∃ buffer, split[3 * index + place]? = some buffer ∧
            buffer.Packs ("layer" ++ toString index) kind yUp (layer.segments kind)) ∧
      flat.map Buffer.kind = [.extruded, .support, .travel] ∧
      ∀ kind, ∃ joined, flat.filter (·.kind = kind) = [joined] ∧
        joined.Packs ("layer" ++ toString layers.length) kind yUp
          (layers.flatMap (·.segments kind)) ∧
        joined.vertices = (split.filter (·.kind = kind)).flatMap Buffer.vertices ∧
        ∀ splitLayers, joined.count = Geometry.count ⟨layers, splitLayers⟩ kind ∧
          ((split.filter (·.kind = kind)).map Buffer.count).sum =
            Geometry.count ⟨layers, splitLayers⟩ kind := by
  intro split flat
  have flatEq : flat = Kind.all.map (Buffer.joined layers yUp) := Buffer.ofGeometry_flat layers yUp
  refine ⟨Buffer.length_ofGeometry_split layers yUp, ?_, ?_, fun kind => ?_⟩
  · intro index layer found place kind listed
    have within : place < 3 := (List.getElem?_eq_some_iff.mp listed).1
    refine ⟨.ofSegments (Buffer.nameOf index) kind yUp (layer.segments kind), ?_,
      Buffer.packs_ofSegments ..⟩
    have shown : (Buffer.ofLayer yUp index layer)[place]? =
        ([Kind.extruded, .support, .travel][place]?).map fun kind =>
          Buffer.ofSegments (Buffer.nameOf index) kind yUp (layer.segments kind) :=
      List.getElem?_map ..
    rw [Buffer.getElem?_ofGeometry_split layers yUp index within, found, Option.bind_some, shown,
      listed, Option.map_some]
  · rw [flatEq, List.map_map]
    rfl
  · refine ⟨.joined layers yUp kind, ?_, Buffer.packs_ofSegments .., ?_, fun splitLayers => ⟨?_, ?_⟩⟩
    · rw [flatEq]
      exact Buffer.filter_kind_map _ (fun _ => rfl) kind
    · exact Buffer.vertices_joined layers yUp kind
    · exact Buffer.count_joined layers yUp kind splitLayers
    · rw [← Buffer.count_joined layers yUp kind splitLayers, Buffer.count,
        ← Buffer.edges_filter_kind, List.length_flatMap]
      rfl

theorem buffers_laid_out_of_two_layers :
    let hop : Segment := ⟨⟨1, 2, 0⟩, ⟨1, 2, 5⟩, .travel⟩
    let layers : List Layer := [.empty 0, (Layer.empty 5).add hop]
    layers[1]? = some ((Layer.empty 5).add hop) ∧
      [Kind.extruded, .support, .travel][2]? = some .travel ∧
      ∃ buffer, (Buffer.ofGeometry ⟨layers, true⟩ true)[5]? = some buffer ∧
        buffer.Packs "layer1" .travel true [hop] := by
  intro hop layers
  refine ⟨rfl, rfl, ?_⟩
  exact (buffers_laid_out layers true).2.1 1 ((Layer.empty 5).add hop) rfl 2 .travel rfl

end Toolpath
