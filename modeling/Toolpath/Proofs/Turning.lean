import Mathlib.Data.List.Forall2
import Mathlib.Order.Bounds.Image
import Toolpath.Proofs.Bounds
import Toolpath.Proofs.Whole

/-! What is left of a buffer when Y points up. For finite rows turning is exact
(`Vertex.place_weighted`), and what is not finite spoils all three coordinates. -/

namespace Toolpath

namespace Binary

variable {format : Format} {left right : Binary format}

theorem signed_mul_signed (negative other : Bool) (steps more : Nat) :
    signed (negative != other) (steps * more) = signed negative steps * signed other more := by
  cases negative <;> cases other <;> simp [signed]

theorem signed_mul_natCast (negative : Bool) (steps unit : Nat) :
    signed negative (steps * unit) = signed negative steps * unit := by
  cases negative <;> simp [signed]

theorem signed_natAbs (total : Int) : signed (total < 0) total.natAbs = total := by
  simpa using signed_mul total 1

theorem place_add_exact (leftFinite : left.isFinite = true) (rightFinite : right.isFinite = true)
    (exact : format.Exact (left.place + right.place).natAbs) :
    (left + right).isFinite = true ∧ (left + right).place = left.place + right.place := by
  obtain ⟨negative, steps, exactLeft, rfl⟩ := exists_eq_finite leftFinite
  obtain ⟨other, more, exactRight, rfl⟩ := exists_eq_finite rightFinite
  change (add _ _).isFinite = true ∧ (add _ _).place = signed negative steps + signed other more
  change format.Exact (signed negative steps + signed other more).natAbs at exact
  generalize total : signed negative steps + signed other more = sum at exact ⊢
  simp only [add, total]
  by_cases zero : sum = 0
  · rw [if_pos zero, zero]
    exact ⟨rfl, place_zero _⟩
  · have kept := format.nearest_eq Nat.one_pos exact.1 (Nat.one_mul _).symm
    obtain ⟨finite, placed⟩ := round_of_lt (sum < 0) sum.natAbs 1 (by rw [kept]; exact exact.2)
    rw [if_neg zero, placed, kept, signed_natAbs]
    exact ⟨finite, rfl⟩

theorem place_add_of_zero (leftFinite : left.isFinite = true) (rightFinite : right.isFinite = true)
    (alone : left.place = 0 ∨ right.place = 0) :
    (left + right).isFinite = true ∧ (left + right).place = left.place + right.place := by
  apply place_add_exact leftFinite rightFinite
  rcases alone with zero | zero
  · rw [zero, Int.zero_add]
    exact natAbs_place_exact rightFinite
  · rw [zero, Int.add_zero]
    exact natAbs_place_exact leftFinite

structure Weighs (number : Binary format) (weight : Int) : Prop where
  finite : number.isFinite = true
  place : number.place = weight * format.one
  unit : weight.natAbs ≤ 1

theorem weighs_ofInt (room : format.precision + format.fraction < format.reach) {weight : Int}
    (unit : weight.natAbs ≤ 1) : (ofInt weight : Binary format).Weighs weight := by
  have bound : weight.natAbs ≤ 2 ^ format.precision := Nat.le_trans unit Nat.one_le_two_pow
  rw [ofInt_eq_finite room bound]
  exact ⟨rfl, signed_mul weight format.one, unit⟩

theorem Weighs.neg {number : Binary format} {weight : Int} (weighs : number.Weighs weight) :
    (-number).Weighs (-weight) where
  finite := by rw [isFinite_neg, weighs.finite]
  place := by rw [place_neg, weighs.place, Int.neg_mul]
  unit := by rw [Int.natAbs_neg]; exact weighs.unit

theorem place_mul_weight {weight : Int} (leftFinite : left.isFinite = true)
    (weighs : right.Weighs weight) :
    (left * right).isFinite = true ∧ (left * right).place = left.place * weight := by
  obtain ⟨rightFinite, placed, unit⟩ := weighs
  obtain ⟨negative, steps, exactLeft, rfl⟩ := exists_eq_finite leftFinite
  obtain ⟨other, more, exactRight, rfl⟩ := exists_eq_finite rightFinite
  change signed other more = weight * format.one at placed
  change (round _ _ _ : Binary format).isFinite = true ∧
    (round _ _ _ : Binary format).place = signed negative steps * weight
  have counted : more = weight.natAbs * format.one := by
    rw [← natAbs_signed other more, placed, Int.natAbs_mul, Int.natAbs_natCast]
  have sign : signed other weight.natAbs = weight := by
    rw [counted, signed_mul_natCast] at placed
    exact Int.eq_of_mul_eq_mul_right (Int.ne_of_gt format.one_pos) placed
  have exact : format.Exact (steps * weight.natAbs) := by
    obtain none | one : weight.natAbs = 0 ∨ weight.natAbs = 1 := by omega
    · rw [none, Nat.mul_zero]
      exact exact_zero
    · rwa [one, Nat.mul_one]
  have kept : format.nearest (steps * more) format.one = steps * weight.natAbs :=
    format.nearest_eq (Nat.two_pow_pos _) exact.1 (by rw [counted]; ring)
  obtain ⟨finite, rounded⟩ := round_of_lt (negative != other) (steps * more) format.one
    (by rw [kept]; exact exact.2)
  rw [rounded, kept, signed_mul_signed, sign]
  exact ⟨finite, rfl⟩

theorem isFinite_of_add (finite : (left + right).isFinite = true) :
    left.isFinite = true ∧ right.isFinite = true := by
  change (left.add right).isFinite = true at finite
  cases left with
  | nan => contradiction
  | infinite negative =>
      cases right with
      | nan => contradiction
      | finite other more exact => contradiction
      | infinite other =>
          simp only [add] at finite
          split at finite <;> contradiction
  | finite negative steps exact =>
      cases right with
      | nan => contradiction
      | infinite other => contradiction
      | finite other more exactMore => exact ⟨rfl, rfl⟩

/-- Not even a product with zero makes up for an infinity. -/
theorem isFinite_of_mul (finite : (left * right).isFinite = true) :
    left.isFinite = true ∧ right.isFinite = true := by
  change (left.mul right).isFinite = true at finite
  cases left with
  | nan => contradiction
  | infinite negative =>
      cases right with
      | nan => contradiction
      | infinite other => contradiction
      | finite other more exact =>
          simp only [mul] at finite
          split at finite <;> contradiction
  | finite negative steps exact =>
      cases right with
      | nan => contradiction
      | infinite other =>
          simp only [mul] at finite
          split at finite <;> contradiction
      | finite other more exactMore => exact ⟨rfl, rfl⟩

end Binary

namespace Vertex

variable {vertex : Vertex}

theorem place_weighted {x y z : Single} {weightX weightY weightZ : Int}
    (finite : vertex.isFinite = true) (weighsX : x.Weighs weightX) (weighsY : y.Weighs weightY)
    (weighsZ : z.Weighs weightZ) (first : weightX = 0 ∨ weightY = 0)
    (second : (weightX = 0 ∧ weightY = 0) ∨ weightZ = 0) :
    (vertex.weighted x y z).isFinite = true ∧ (vertex.weighted x y z).place =
      vertex.x.place * weightX + vertex.y.place * weightY + vertex.z.place * weightZ := by
  obtain ⟨finiteX, finiteY, finiteZ⟩ := isFinite_iff.mp finite
  obtain ⟨productX, placedX⟩ := Binary.place_mul_weight finiteX weighsX
  obtain ⟨productY, placedY⟩ := Binary.place_mul_weight finiteY weighsY
  obtain ⟨productZ, placedZ⟩ := Binary.place_mul_weight finiteZ weighsZ
  obtain ⟨sumXY, placedXY⟩ := Binary.place_add_of_zero productX productY (by
    rw [placedX, placedY]
    rcases first with rfl | rfl <;> simp)
  obtain ⟨sum, placed⟩ := Binary.place_add_of_zero sumXY productZ (by
    rw [placedXY, placedX, placedY, placedZ]
    rcases second with ⟨rfl, rfl⟩ | rfl <;> simp)
  exact ⟨sum, by rw [weighted, placed, placedXY, placedX, placedY, placedZ]⟩

theorem isFinite_of_weighted {x y z : Single} (finite : (vertex.weighted x y z).isFinite = true) :
    vertex.isFinite = true := by
  obtain ⟨sumXY, productZ⟩ := Binary.isFinite_of_add finite
  obtain ⟨productX, productY⟩ := Binary.isFinite_of_add sumXY
  exact isFinite_iff.mpr ⟨(Binary.isFinite_of_mul productX).1, (Binary.isFinite_of_mul productY).1,
    (Binary.isFinite_of_mul productZ).1⟩

theorem weighs_zero : (0 : Single).Weighs 0 := Binary.weighs_ofInt (by decide) (by decide)

theorem weighs_one : (1 : Single).Weighs 1 := Binary.weighs_ofInt (by decide) (by decide)

theorem weighs_neg_one : (-1 : Single).Weighs (-1) := weighs_one.neg

def upright (vertex : Vertex) : Vertex := ⟨vertex.x, vertex.z, -vertex.y⟩

/-- Holds of a vertex and what turning makes of it. -/
structure TurnsTo (vertex turned : Vertex) : Prop where
  exact : vertex.isFinite = true →
    turned.isFinite = true ∧ turned.unsignedZeros = vertex.upright.unsignedZeros
  spoiled : vertex.isFinite = false →
    turned.x.isFinite = false ∧ turned.y.isFinite = false ∧ turned.z.isFinite = false

theorem isFinite_upright : vertex.upright.isFinite = vertex.isFinite := by
  simp only [upright, isFinite, Binary.isFinite_neg, Bool.and_right_comm]

theorem place_turned (finite : vertex.isFinite = true) :
    vertex.turned.isFinite = true ∧ ∀ coordinate ∈ coordinates,
      (coordinate vertex.turned).place = (coordinate vertex.upright).place := by
  obtain ⟨finiteX, x⟩ := place_weighted finite weighs_one weighs_zero weighs_zero
    (by decide) (by decide)
  obtain ⟨finiteY, y⟩ := place_weighted finite weighs_zero weighs_zero weighs_one
    (by decide) (by decide)
  obtain ⟨finiteZ, z⟩ := place_weighted finite weighs_zero weighs_neg_one weighs_zero
    (by decide) (by decide)
  refine ⟨isFinite_iff.mpr ⟨finiteX, finiteY, finiteZ⟩, ?_⟩
  simp [coordinates, turned, upright, x, y, z]

theorem turnsTo_turned (vertex : Vertex) : vertex.TurnsTo vertex.turned where
  exact finite := by
    obtain ⟨turnedFinite, same⟩ := place_turned finite
    exact ⟨turnedFinite, unsignedZeros_eq turnedFinite (isFinite_upright.trans finite) same⟩
  spoiled infinite := by
    have each {x y z : Single} : (vertex.weighted x y z).isFinite = false := by
      rw [← Bool.not_eq_true] at infinite ⊢
      exact mt isFinite_of_weighted infinite
    exact ⟨each, each, each⟩

theorem isFinite_turned (vertex : Vertex) : vertex.turned.isFinite = vertex.isFinite := by
  cases finite : vertex.isFinite with
  | true => exact (place_turned finite).1
  | false =>
      rw [isFinite, (vertex.turnsTo_turned.spoiled finite).1]
      rfl

end Vertex

namespace Edge

def turned (edge : Edge) : Edge := ⟨edge.start.turned, edge.stop.turned⟩

theorem isFinite_turned (edge : Edge) : edge.turned.isFinite = edge.isFinite := by
  simp only [isFinite, turned, Vertex.isFinite_turned]

end Edge

namespace Buffer

def turned (buffer : Buffer) : Buffer := { buffer with edges := buffer.edges.map Edge.turned }

theorem vertices_turned (buffer : Buffer) :
    buffer.turned.vertices = buffer.vertices.map Vertex.turned := by
  rw [vertices, vertices, turned, List.flatMap_map, List.map_flatMap]
  rfl

theorem finite_turned (buffer : Buffer) : buffer.turned.finite = buffer.finite.turned := by
  have kept : Edge.isFinite ∘ Edge.turned = Edge.isFinite := funext Edge.isFinite_turned
  simp only [finite, turned, List.filter_map, kept]

theorem ofSegments_yUp (name : String) (kind : Kind) (segments : List Segment) :
    ofSegments name kind true segments = (ofSegments name kind false segments).turned := by
  simp only [ofSegments, turned, List.map_map]
  rfl

theorem ofGeometry_yUp (geometry : Geometry) :
    ofGeometry geometry true = (ofGeometry geometry false).map turned := by
  unfold ofGeometry
  cases geometry.flattened? with
  | none => simp only [List.map_flatMap, List.map_map, Function.comp_def, ofSegments_yUp]
  | some flattened => simp only [List.map_map, Function.comp_def, ofSegments_yUp]

theorem forall₂_turnsTo (vertices : List Vertex) :
    List.Forall₂ Vertex.TurnsTo vertices (vertices.map Vertex.turned) :=
  List.forall₂_map_right_iff.mpr (List.forall₂_same.mpr fun vertex _ => vertex.turnsTo_turned)

/-- Holds of a buffer and the one that is given when Y points up: row by row it is turned, the same
edges are finite, and dropping the others leaves the turned rest. -/
structure TurnsTo (buffer other : Buffer) : Prop where
  name : other.name = buffer.name
  kind : other.kind = buffer.kind
  rows : List.Forall₂ Vertex.TurnsTo buffer.vertices other.vertices
  kept : other.edges.map Edge.isFinite = buffer.edges.map Edge.isFinite
  finite : other.finite = buffer.finite.turned
  finite_rows : List.Forall₂ Vertex.TurnsTo buffer.finite.vertices other.finite.vertices

theorem turnsTo_turned (buffer : Buffer) : buffer.TurnsTo buffer.turned where
  name := rfl
  kind := rfl
  rows := by
    rw [vertices_turned]
    exact forall₂_turnsTo _
  kept := by
    rw [turned, List.map_map]
    exact List.map_congr_left fun edge _ => edge.isFinite_turned
  finite := buffer.finite_turned
  finite_rows := by
    rw [finite_turned, vertices_turned]
    exact forall₂_turnsTo _

theorem finiteRows_turned (buffers : List Buffer) :
    finiteRows (buffers.map turned) = (finiteRows buffers).map Vertex.turned := by
  have kept : Vertex.isFinite ∘ Vertex.turned = Vertex.isFinite := funext Vertex.isFinite_turned
  rw [finiteRows, finiteRows, ← kept, ← List.filter_map, kept, List.flatMap_map, List.map_flatMap]
  simp only [vertices_turned]

end Buffer

namespace Box

/-- The box with its height along Y. Its depth is reversed, and so its corners trade places. -/
def upright (box : Box) : Box :=
  ⟨⟨box.low.x, box.low.z, -box.high.y⟩, ⟨box.high.x, box.high.z, -box.low.y⟩⟩

variable {box other : Box} {vertices : List Vertex}

theorem places_turned {coordinate : Vertex → Single} (listed : coordinate ∈ Vertex.coordinates)
    (finite : ∀ vertex ∈ vertices, vertex.isFinite = true) :
    places coordinate (vertices.map Vertex.turned) =
      places (fun vertex => coordinate vertex.upright) vertices := by
  have same (vertex : Vertex) (member : vertex ∈ vertices) :
      (coordinate vertex.turned).place = (coordinate vertex.upright).place :=
    (Vertex.place_turned (finite vertex member)).2 coordinate listed
  ext place
  constructor
  · rintro ⟨_, mapped, rfl⟩
    obtain ⟨vertex, member, rfl⟩ := List.mem_map.mp mapped
    exact ⟨vertex, member, (same vertex member).symm⟩
  · rintro ⟨vertex, member, rfl⟩
    exact ⟨vertex.turned, List.mem_map_of_mem member, same vertex member⟩

theorem places_neg (coordinate : Vertex → Single) (vertices : List Vertex) :
    places (fun vertex => -coordinate vertex) vertices = Neg.neg '' places coordinate vertices := by
  ext place
  constructor
  · rintro ⟨vertex, member, rfl⟩
    exact ⟨_, ⟨vertex, member, rfl⟩, (Binary.place_neg _).symm⟩
  · rintro ⟨_, ⟨vertex, member, rfl⟩, rfl⟩
    exact ⟨vertex, member, Binary.place_neg _⟩

theorem isFinite_upright (low : box.low.isFinite = true) (high : box.high.isFinite = true) :
    box.upright.low.isFinite = true ∧ box.upright.high.isFinite = true := by
  obtain ⟨lowX, lowY, lowZ⟩ := Vertex.isFinite_iff.mp low
  obtain ⟨highX, highY, highZ⟩ := Vertex.isFinite_iff.mp high
  exact ⟨Vertex.isFinite_iff.mpr ⟨lowX, lowZ, (Binary.isFinite_neg _).trans highY⟩,
    Vertex.isFinite_iff.mpr ⟨highX, highZ, (Binary.isFinite_neg _).trans lowY⟩⟩

theorem Least.place_turned (least : box.Least vertices)
    (otherLeast : other.Least (vertices.map Vertex.turned))
    (finite : ∀ vertex ∈ vertices, vertex.isFinite = true) {coordinate : Vertex → Single}
    (listed : coordinate ∈ Vertex.coordinates) :
    (coordinate other.low).place = (coordinate box.upright.low).place ∧
      (coordinate other.high).place = (coordinate box.upright.high).place := by
  have isLeast := (otherLeast.spans listed).isLeast
  have isGreatest := (otherLeast.spans listed).isGreatest
  rw [places_turned listed finite] at isLeast isGreatest
  simp only [Vertex.coordinates, List.mem_cons, List.not_mem_nil, or_false] at listed
  rcases listed with rfl | rfl | rfl
  · exact ⟨isLeast.unique least.spans_x.isLeast, isGreatest.unique least.spans_x.isGreatest⟩
  · exact ⟨isLeast.unique least.spans_z.isLeast, isGreatest.unique least.spans_z.isGreatest⟩
  · have reversed : places (fun vertex => vertex.upright.z) vertices =
        Neg.neg '' places Vertex.y vertices := places_neg Vertex.y vertices
    have antitone : Antitone (Neg.neg : Int → Int) := fun _ _ order => Int.neg_le_neg order
    rw [reversed] at isLeast isGreatest
    have low := isLeast.unique (antitone.map_isGreatest least.spans_y.isGreatest)
    have high := isGreatest.unique (antitone.map_isLeast least.spans_y.isLeast)
    exact ⟨low.trans (Binary.place_neg _).symm, high.trans (Binary.place_neg _).symm⟩

theorem Least.unsignedZeros_turned (least : box.Least vertices)
    (otherLeast : other.Least (vertices.map Vertex.turned))
    (finite : ∀ vertex ∈ vertices, vertex.isFinite = true) :
    other.unsignedZeros = box.upright.unsignedZeros := by
  obtain ⟨lowFinite, highFinite⟩ := isFinite_upright least.low_isFinite least.high_isFinite
  have low : other.low.unsignedZeros = box.upright.low.unsignedZeros :=
    Vertex.unsignedZeros_eq otherLeast.low_isFinite lowFinite fun _ listed =>
      (least.place_turned otherLeast finite listed).1
  have high : other.high.unsignedZeros = box.upright.high.unsignedZeros :=
    Vertex.unsignedZeros_eq otherLeast.high_isFinite highFinite fun _ listed =>
      (least.place_turned otherLeast finite listed).2
  rw [unsignedZeros, unsignedZeros, low, high]

theorem ofVertices?_turned (finite : ∀ vertex ∈ vertices, vertex.isFinite = true) :
    (ofVertices? (vertices.map Vertex.turned)).map unsignedZeros =
      (ofVertices? vertices).map fun box => box.upright.unsignedZeros := by
  by_cases empty : vertices = []
  · rw [empty]
    rfl
  have turnedFinite : ∀ vertex ∈ vertices.map Vertex.turned, vertex.isFinite = true := by
    rw [List.forall_mem_map]
    exact fun vertex member => vertex.isFinite_turned.trans (finite vertex member)
  obtain ⟨box, found⟩ := exists_ofVertices? empty
  obtain ⟨other, otherFound⟩ := exists_ofVertices? (List.map_eq_nil_iff.not.mpr empty)
  have least := least_of_ofVertices? found finite
  have otherLeast := least_of_ofVertices? otherFound turnedFinite
  rw [found, otherFound, Option.map_some, Option.map_some,
    least.unsignedZeros_turned otherLeast finite]

end Box

/-- With Y pointing up every buffer of a geometry is turned row by row. A finite row swaps its
coordinates, any other spoils all three, so the same edges are finite and dropping the others gives
the turned rest. There is a box exactly when there was one, and it has its height along Y. -/
theorem turning_commutes (geometry : Geometry) :
    let plain := Buffer.ofGeometry geometry false
    let up := Buffer.ofGeometry geometry true
    List.Forall₂ Buffer.TurnsTo plain up ∧
      (Box.ofBuffers? up = none ↔ Box.ofBuffers? plain = none) ∧
      (Box.ofBuffers? up).map Box.unsignedZeros =
        (Box.ofBuffers? plain).map fun box => Box.unsignedZeros
          ⟨⟨box.low.x, box.low.z, -box.high.y⟩, ⟨box.high.x, box.high.z, -box.low.y⟩⟩ := by
  intro plain up
  have upEq : up = plain.map Buffer.turned := Buffer.ofGeometry_yUp geometry
  have boxes : (Box.ofBuffers? up).map Box.unsignedZeros =
      (Box.ofBuffers? plain).map fun box => box.upright.unsignedZeros := by
    have finite : ∀ vertex ∈ finiteRows plain, vertex.isFinite = true :=
      isFinite_of_mem_finiteRows
    have turned := Box.ofVertices?_turned finite
    rwa [← Buffer.finiteRows_turned, ← upEq] at turned
  refine ⟨?_, ?_, boxes⟩
  · rw [upEq, List.forall₂_map_right_iff, List.forall₂_same]
    exact fun buffer _ => buffer.turnsTo_turned
  · rw [← Option.map_eq_none_iff, boxes, Option.map_eq_none_iff]

end Toolpath
