import Mathlib.Data.List.Forall2
import Mathlib.Data.List.ReduceOption
import Toolpath.Geometry.Record
import Toolpath.Proofs.Rows

/-!
What a record tells of the geometry it was made from. Cutting its lists by sixes gives the segments
back, as far as their numbers are finite.
-/

namespace Toolpath

/-- A number as far as an export tells it: those that are not finite are all the same. -/
def masked (number : Double) : Double := if number.isFinite then number else .nan

def Point.masked (point : Point) : Point :=
  ⟨Toolpath.masked point.x, Toolpath.masked point.y, Toolpath.masked point.z⟩

def Segment.masked (segment : Segment) : Segment :=
  ⟨segment.start.masked, segment.stop.masked, segment.kind⟩

namespace Layer

def masked (layer : Layer) : Layer :=
  ⟨Toolpath.masked layer.z, layer.extruded.map Segment.masked, layer.support.map Segment.masked,
    layer.travel.map Segment.masked⟩

/-- A layer at a height, with some segments added in order. -/
def filled (z : Double) (segments : List Segment) : Layer := segments.foldl add (empty z)

theorem foldl_add (layer : Layer) (segments : List Segment) :
    (segments.foldl add layer).z = layer.z ∧ ∀ kind,
      (segments.foldl add layer).segments kind =
        layer.segments kind ++ segments.filter (·.kind = kind) := by
  induction segments generalizing layer with
  | nil => simp
  | cons segment rest ih =>
      obtain ⟨level, lists⟩ := ih (layer.add segment)
      refine ⟨level.trans (z_add layer segment), fun kind => ?_⟩
      rw [List.foldl_cons, lists, segments_add, List.append_assoc, List.filter_cons]
      by_cases same : segment.kind = kind <;> simp [same]

@[simp] theorem z_filled (z : Double) (segments : List Segment) : (filled z segments).z = z :=
  (foldl_add (empty z) segments).1

@[simp] theorem segments_filled (z : Double) (segments : List Segment) (kind : Kind) :
    (filled z segments).segments kind = segments.filter (·.kind = kind) := by
  rw [filled, (foldl_add (empty z) segments).2, segments_empty, List.nil_append]

end Layer

def exportedCoordinates (segments : List Segment) : List (Option Double) :=
  (segments.flatMap Segment.coordinates).map exported

def Segment.entries (segment : Segment) : List (Option Double) :=
  [exported segment.start.x, exported segment.start.y, exported segment.start.z,
    exported segment.stop.x, exported segment.stop.y, exported segment.stop.z]

theorem Segment.length_entries (segment : Segment) : segment.entries.length = 6 := rfl

theorem exportedCoordinates_eq (segments : List Segment) :
    exportedCoordinates segments = segments.flatMap Segment.entries := by
  rw [exportedCoordinates, List.map_flatMap]
  rfl

theorem length_exportedCoordinates (segments : List Segment) :
    (exportedCoordinates segments).length = 6 * segments.length := by
  rw [exportedCoordinates_eq, length_flatMap_of_width Segment.length_entries]

theorem exportedCoordinates_getElem? {segments : List Segment} {index : Nat} {segment : Segment}
    (found : segments[index]? = some segment) {place : Nat} (within : place < 6) :
    (exportedCoordinates segments)[6 * index + place]? = segment.entries[place]? := by
  rw [exportedCoordinates_eq, getElem?_flatMap_of_width Segment.length_entries _ _ within, found,
    Option.bind_some]

theorem exportedCoordinates_flatMap {α : Type} (items : List α) (segments : α → List Segment) :
    exportedCoordinates (items.flatMap segments) =
      items.flatMap fun item => exportedCoordinates (segments item) := by
  simp only [exportedCoordinates, List.flatMap_assoc, List.map_flatMap]

def readBack (entry : Option Double) : Double := entry.getD .nan

@[simp] theorem readBack_exported (number : Double) :
    readBack (exported number) = masked number := by
  unfold exported masked
  split <;> rfl

def segmentsOf (kind : Kind) : List (Option Double) → List Segment
  | x :: y :: z :: x' :: y' :: z' :: rest =>
    ⟨⟨readBack x, readBack y, readBack z⟩, ⟨readBack x', readBack y', readBack z'⟩, kind⟩ ::
      segmentsOf kind rest
  | _ => []

theorem segmentsOf_exportedCoordinates {segments : List Segment} {kind : Kind}
    (sorted : ∀ segment ∈ segments, segment.kind = kind) :
    segmentsOf kind (exportedCoordinates segments) = segments.map Segment.masked := by
  induction segments with
  | nil => rfl
  | cons segment rest ih =>
      rw [List.forall_mem_cons] at sorted
      rw [exportedCoordinates_eq, List.flatMap_cons, ← exportedCoordinates_eq, List.map_cons,
        ← ih sorted.2]
      simp [Segment.entries, segmentsOf, Segment.masked, Point.masked, sorted.1]

theorem CoordinateLists.get_ofSegments (segments : Kind → List Segment) (kind : Kind) :
    (ofSegments segments).get kind = exportedCoordinates (segments kind) := by
  cases kind <;> rfl

namespace LayerRecord

def layer (record : LayerRecord) : Layer :=
  ⟨readBack record.z, (segmentsOf .extruded record.coordinates.extruded).toArray,
    (segmentsOf .support record.coordinates.support).toArray,
    (segmentsOf .travel record.coordinates.travel).toArray⟩

/-- What the record of a layer holds: its height, and six entries for each segment of a kind, in the
order of recording. -/
structure Encodes (record : LayerRecord) (z : Double) (segments : List Segment) : Prop where
  height : record.z = if z.isFinite then some z else none
  length : ∀ kind, (record.coordinates.get kind).length =
    6 * (segments.filter (·.kind = kind)).length
  entry : ∀ kind index segment, (segments.filter (·.kind = kind))[index]? = some segment →
    ∀ place < 6, (record.coordinates.get kind)[6 * index + place]? = segment.entries[place]?

theorem get_ofLayer_filled (z : Double) (segments : List Segment) (kind : Kind) :
    (ofLayer (.filled z segments)).coordinates.get kind =
      exportedCoordinates (segments.filter (·.kind = kind)) := by
  rw [ofLayer, CoordinateLists.get_ofSegments, Layer.segments_filled]

theorem encodes_ofLayer (z : Double) (segments : List Segment) :
    (ofLayer (.filled z segments)).Encodes z segments where
  height := by
    rw [ofLayer, Layer.z_filled]
    rfl
  length kind := by rw [get_ofLayer_filled, length_exportedCoordinates]
  entry kind index segment found place within := by
    rw [get_ofLayer_filled, exportedCoordinates_getElem? found within]

theorem layer_ofLayer (z : Double) (segments : List Segment) :
    (ofLayer (.filled z segments)).layer = (Layer.filled z segments).masked := by
  have cut (kind : Kind) : segmentsOf kind ((ofLayer (.filled z segments)).coordinates.get kind) =
      ((Layer.filled z segments).segments kind).map Segment.masked := by
    rw [get_ofLayer_filled, Layer.segments_filled]
    refine segmentsOf_exportedCoordinates fun segment member => ?_
    simpa using List.of_mem_filter member
  have lists (kind : Kind) (recorded : Array Segment)
      (listed : (Layer.filled z segments).segments kind = recorded.toList) :
      (segmentsOf kind ((ofLayer (.filled z segments)).coordinates.get kind)).toArray =
        recorded.map Segment.masked := by
    rw [cut, listed, ← List.map_toArray]
  rw [layer, Layer.masked, Layer.mk.injEq]
  exact ⟨readBack_exported _, lists .extruded _ rfl, lists .support _ rfl, lists .travel _ rfl⟩

end LayerRecord

theorem CoordinateLists.get_joined (layers : List Layer) (kind : Kind) :
    (ofSegments fun kind => layers.flatMap (·.segments kind)).get kind =
      (layers.map LayerRecord.ofLayer).flatMap (·.coordinates.get kind) := by
  rw [get_ofSegments, exportedCoordinates_flatMap, List.flatMap_map]
  simp only [LayerRecord.ofLayer, get_ofSegments]

namespace Record

def layerCount : Record → Nat
  | split layers => layers.length
  | flat layerCount _ => layerCount

theorem ofGeometry_split (layers : List Layer) :
    ofGeometry ⟨layers, true⟩ = split (layers.map .ofLayer) := rfl

theorem ofGeometry_flat (layers : List Layer) :
    ofGeometry ⟨layers, false⟩ =
      flat layers.length (.ofSegments fun kind => layers.flatMap (·.segments kind)) := by
  have lists : (Flattened.ofLayers layers).segments =
      fun kind => layers.flatMap (·.segments kind) :=
    funext (Flattened.segments_ofLayers layers)
  change flat layers.length (.ofSegments (Flattened.ofLayers layers).segments) = _
  rw [lists]

theorem isFinite_of_exported {number value : Double} (kept : exported number = some value) :
    value.isFinite = true := by
  unfold exported at kept
  split at kept
  · rename_i finite
    rwa [← Option.some.inj kept]
  · contradiction

theorem isFinite_of_mem_get {segments : Kind → List Segment} {number : Double}
    (member : number ∈ (Kind.all.flatMap (CoordinateLists.ofSegments segments).get).reduceOption) :
    number.isFinite = true := by
  rw [List.reduceOption_mem_iff, List.mem_flatMap] at member
  obtain ⟨kind, _, listed⟩ := member
  rw [CoordinateLists.get_ofSegments, exportedCoordinates, List.mem_map] at listed
  obtain ⟨_, _, kept⟩ := listed
  exact isFinite_of_exported kept

theorem isFinite_of_mem_numbers {geometry : Geometry} {number : Double}
    (member : number ∈ (ofGeometry geometry).numbers) : number.isFinite = true := by
  obtain ⟨layers, splitLayers⟩ := geometry
  cases splitLayers with
  | false =>
      rw [ofGeometry_flat] at member
      exact isFinite_of_mem_get member
  | true =>
      rw [ofGeometry_split, numbers, List.flatMap_map, List.mem_flatMap] at member
      obtain ⟨layer, _, listed⟩ := member
      rcases List.mem_append.mp listed with height | coordinate
      · exact isFinite_of_exported (Option.mem_toList.mp height)
      · exact isFinite_of_mem_get coordinate

theorem strictText?_ofGeometry (geometry : Geometry) :
    (ofGeometry geometry).strictText? = some (ofGeometry geometry).text := by
  rw [strictText?, if_pos]
  exact List.all_eq_true.mpr fun _ => isFinite_of_mem_numbers

end Record

/-- Records are faithful and can be written. Split geometry gives one record for each layer, from
which the layer can be read back as far as its numbers are finite, and flattened geometry gives the
same count with the lists of all layers joined. -/
theorem record_faithful (contents : List (Double × List Segment)) :
    let layers := contents.map fun (z, segments) => Layer.filled z segments
    let split := Record.ofGeometry ⟨layers, true⟩
    let flat := Record.ofGeometry ⟨layers, false⟩
    ∃ records lists, split = .split records ∧ flat = .flat contents.length lists ∧
      split.layerCount = contents.length ∧ flat.layerCount = contents.length ∧
      List.Forall₂ (fun content record => record.Encodes content.1 content.2) contents records ∧
      records.map LayerRecord.layer = layers.map Layer.masked ∧
      (∀ kind, lists.get kind = records.flatMap (·.coordinates.get kind)) ∧
      split.strictText? = some split.text ∧ flat.strictText? = some flat.text := by
  intro layers split flat
  have counted : layers.length = contents.length := List.length_map _
  refine ⟨layers.map .ofLayer, .ofSegments fun kind => layers.flatMap (·.segments kind),
    Record.ofGeometry_split layers, ?_, ?_, ?_, ?_, ?_, ?_, Record.strictText?_ofGeometry _,
    Record.strictText?_ofGeometry _⟩
  · rw [← counted]
    exact Record.ofGeometry_flat layers
  · exact (List.length_map _).trans counted
  · exact counted
  · rw [List.map_map, List.forall₂_map_right_iff, List.forall₂_same]
    rintro ⟨z, segments⟩ _
    exact LayerRecord.encodes_ofLayer z segments
  · rw [List.map_map, List.map_map, List.map_map]
    apply List.map_congr_left
    rintro ⟨z, segments⟩ _
    exact LayerRecord.layer_ofLayer z segments
  · exact CoordinateLists.get_joined layers

end Toolpath
