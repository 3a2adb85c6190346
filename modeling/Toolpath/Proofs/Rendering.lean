import Toolpath.Proofs.Box
import Toolpath.Proofs.Drawing
import Toolpath.Proofs.Selection

/-! When a preview with something to draw is completed. -/

namespace Toolpath

open Binary

/-- Holds of the numbers that a text may measure in pixels: those no greater than `2 ^ 31`. -/
def Quantity.InPixels : Quantity → Prop
  | whole value => value.natAbs ≤ 2 ^ 31
  | real value => value.Within 1105

def TextBox.InPixels (box : TextBox) : Prop := box.top.InPixels ∧ box.bottom.InPixels

def Rendering.Completes (rendering : Rendering) : Prop :=
  (∃ summary, rendering.ending = .ok summary) ∧ FiniteLines rendering.calls

/-- Holds when everything that can be drawn has one x coordinate, which is beyond `2 ^ 53`. -/
def InDistantColumn (options : PreviewOptions) (geometry : Geometry) : Prop :=
  ∃ x, Distant x ∧ ∀ segment, Drawn options geometry segment →
    (Edge.ofSegment false segment).isFinite = true →
      ∀ vertex ∈ (Edge.ofSegment false segment).vertices, vertex.x = x

theorem Quantity.within_toDouble {quantity : Quantity} (pixels : quantity.InPixels) :
    ∃ number, quantity.toDouble = .ok number ∧ number.Within 1105 := by
  cases quantity with
  | whole value => exact within_doubleOfInt pixels
  | real value => exact ⟨value, rfl, pixels⟩

theorem Quantity.exists_truncate_minus {left right : Quantity} (leftPixels : left.InPixels)
    (rightPixels : right.InPixels) :
    ∃ difference dropped, left.minus right = .ok difference ∧
      difference.truncate = .ok dropped := by
  obtain ⟨first, leftFound, leftWithin⟩ := within_toDouble leftPixels
  obtain ⟨second, rightFound, rightWithin⟩ := within_toDouble rightPixels
  have finite := (within_sub leftWithin rightWithin (by decide)).1.1
  obtain ⟨dropped, truncated⟩ := truncateDouble_of_isFinite finite
  have inexact : (do return real ((← left.toDouble) - (← right.toDouble)) :
      Except ConversionError Quantity) = .ok (real (first - second)) := by
    rw [leftFound, ok_bind, rightFound, ok_bind]
    rfl
  cases left with
  | real value => exact ⟨real (first - second), dropped, inexact, truncated⟩
  | whole value =>
      cases right with
      | real other => exact ⟨real (first - second), dropped, inexact, truncated⟩
      | whole other => exact ⟨whole (value - other), value - other, rfl, rfl⟩

theorem TextBox.exists_height {box : TextBox} (pixels : box.InPixels) :
    ∃ height, box.height = .ok height := by
  obtain ⟨difference, dropped, found, truncated⟩ :=
    Quantity.exists_truncate_minus pixels.2 pixels.1
  exact ⟨dropped, by rw [height, found, ok_bind, truncated]⟩

theorem PreviewOptions.canvas_of_whole {options : PreviewOptions} {width height : Int}
    (wide : options.width = .whole width) (high : options.height = .whole height)
    (widthBound : width ≤ 2 ^ 31) (heightBound : height ≤ 2 ^ 31) :
    ∃ canvas, options.canvas = .ok canvas ∧ canvas.Bounded := by
  refine ⟨⟨(max 1 width).toNat, (max 1 height).toNat⟩, ?_, ?_⟩
  · rw [canvas, wide, high]
    rfl
  · constructor <;> dsimp only <;> omega

namespace Selection

theorem mem_vertices {selection : Selection} {vertex : Vertex} :
    vertex ∈ selection.buffers.flatMap Buffer.vertices ↔
      ∃ edge ∈ selection.edges, vertex ∈ edge.vertices := by
  simp only [edges, List.mem_flatMap, Buffer.vertices]
  constructor
  · rintro ⟨buffer, listed, edge, inside, tip⟩
    exact ⟨edge, ⟨buffer, listed, inside⟩, tip⟩
  · rintro ⟨edge, ⟨buffer, listed, inside⟩, tip⟩
    exact ⟨buffer, listed, edge, inside, tip⟩

theorem mem_edges_finite {options : PreviewOptions} {geometry : Geometry} {edge : Edge} :
    edge ∈ (ofGeometry options geometry).finite.edges ↔
      ∃ segment, Drawn options geometry segment ∧ Edge.ofSegment false segment = edge ∧
        edge.isFinite = true := by
  rw [edges_finite, List.mem_filter, mem_edges_ofGeometry]
  constructor
  · rintro ⟨⟨segment, drawn, same⟩, finite⟩
    exact ⟨segment, drawn, same, finite⟩
  · rintro ⟨segment, drawn, same, finite⟩
    exact ⟨⟨segment, drawn, same⟩, finite⟩

end Selection

theorem inDistantColumn_iff {options : PreviewOptions} {geometry : Geometry} :
    InDistantColumn options geometry ↔ ∃ x, Distant x ∧
      ∀ edge ∈ (Selection.ofGeometry options geometry).finite.edges,
        ∀ vertex ∈ edge.vertices, vertex.x = x := by
  simp only [InDistantColumn, Selection.mem_edges_finite]
  constructor
  · rintro ⟨x, distant, all⟩
    refine ⟨x, distant, ?_⟩
    rintro edge ⟨segment, drawn, rfl, finite⟩
    exact all segment drawn finite
  · rintro ⟨x, distant, all⟩
    exact ⟨x, distant, fun segment drawn finite => all _ ⟨segment, drawn, rfl, finite⟩⟩

namespace Preview

theorem draw_of_distant {options : PreviewOptions} {selection : Selection} {box : Box}
    {canvas : Canvas} (prepared : options.canvas = .ok canvas) (bounded : canvas.Bounded)
    (lowFinite : box.low.isFinite = true) (highFinite : box.high.isFinite = true)
    (same : box.low.x.place = box.high.x.place) (distant : Distant box.low.x) :
    (draw options selection box).ending = .error .divisionByZero := by
  rw [draw, prepared, Rendering.attempt_ok,
    layout_of_distant bounded lowFinite highFinite same distant, Rendering.attempt_error]

theorem draw_completes {options : PreviewOptions} {selection : Selection} {box : Box}
    {canvas : Canvas} (prepared : options.canvas = .ok canvas) (bounded : canvas.Bounded)
    (measured : options.textBox.InPixels)
    (finite : ∀ edge ∈ selection.edges, edge.isFinite = true)
    (lowFinite : box.low.isFinite = true) (highFinite : box.high.isFinite = true)
    (apart : box.low.x.place = box.high.x.place → ¬ Distant box.low.x) :
    (draw options selection box).Completes := by
  obtain ⟨result, laidOut, resultBounded⟩ := exists_layout bounded lowFinite highFinite apart
  obtain ⟨height, found⟩ := TextBox.exists_height measured
  rw [draw, prepared, Rendering.attempt_ok, laidOut, Rendering.attempt_ok, found]
  refine ⟨⟨_, rfl⟩, ?_⟩
  change FiniteLines (_ ++ _ ++ textCalls canvas options.palette.text height _)
  simp only [finiteLines_append]
  refine ⟨⟨?_, finiteLines_lineCalls resultBounded options.palette finite⟩,
    finiteLines_textCalls _ _ _ _⟩
  simp [FiniteLines, DrawCall.coordinates]

theorem render_eq_draw {options : PreviewOptions} {geometry : Geometry} {edge : Edge}
    (drawable : edge ∈ (Selection.ofGeometry options geometry).finite.edges) :
    ∃ box vertices, render options geometry =
        draw options (Selection.ofGeometry options geometry).finite box ∧ box.Least vertices ∧
      ∀ vertex, vertex ∈ vertices ↔
        ∃ edge ∈ (Selection.ofGeometry options geometry).finite.edges, vertex ∈ edge.vertices := by
  let selection := (Selection.ofGeometry options geometry).finite
  let vertices := (selection.buffers.flatMap Buffer.vertices).filter Vertex.isFinite
  have members : ∀ vertex, vertex ∈ vertices ↔ ∃ edge ∈ selection.edges, vertex ∈ edge.vertices := by
    intro vertex
    rw [List.mem_filter, Selection.mem_vertices]
    constructor
    · exact And.left
    · rintro ⟨edge, listed, tip⟩
      obtain ⟨_, _, _, edgeFinite⟩ := Selection.mem_edges_finite.mp listed
      exact ⟨⟨edge, listed, tip⟩, Edge.isFinite_iff.mp edgeFinite vertex tip⟩
  have listed : vertices ≠ [] :=
    List.ne_nil_of_mem ((members edge.start).mpr ⟨edge, drawable, List.mem_cons_self⟩)
  obtain ⟨box, found⟩ := Box.exists_ofVertices? listed
  have least := Box.least_of_ofVertices? found fun vertex inside => (List.mem_filter.mp inside).2
  refine ⟨box, vertices, ?_, least, members⟩
  have boxed : Box.ofBuffers? selection.buffers = some box := found
  simp only [render, boxed, selection] at boxed ⊢

theorem inDistantColumn_iff_of_least {options : PreviewOptions} {geometry : Geometry} {box : Box}
    {vertices : List Vertex} (least : box.Least vertices)
    (members : ∀ vertex, vertex ∈ vertices ↔
      ∃ edge ∈ (Selection.ofGeometry options geometry).finite.edges, vertex ∈ edge.vertices) :
    InDistantColumn options geometry ↔
      box.low.x.place = box.high.x.place ∧ Distant box.low.x := by
  have lowFinite := (Vertex.isFinite_iff.mp least.low_isFinite).1
  rw [inDistantColumn_iff]
  constructor
  · rintro ⟨x, distant, all⟩
    obtain ⟨nearest, nearestListed, low⟩ := least.spans_x.low_mem
    obtain ⟨farthest, farthestListed, high⟩ := least.spans_x.high_mem
    obtain ⟨edge, drawn, tip⟩ := (members nearest).mp nearestListed
    obtain ⟨other, otherDrawn, otherTip⟩ := (members farthest).mp farthestListed
    rw [all edge drawn nearest tip] at low
    rw [all other otherDrawn farthest otherTip] at high
    rw [low, high]
    exact ⟨rfl, distant⟩
  · rintro ⟨same, distant⟩
    refine ⟨box.low.x, distant, ?_⟩
    intro edge drawn vertex tip
    have listed := (members vertex).mpr ⟨edge, drawn, tip⟩
    have above := least.spans_x.low_le vertex listed
    have below := least.spans_x.le_high vertex listed
    obtain ⟨_, _, _, edgeFinite⟩ := Selection.mem_edges_finite.mp drawn
    obtain ⟨finite, -, -⟩ := Vertex.isFinite_iff.mp (Edge.isFinite_iff.mp edgeFinite vertex tip)
    have beyond := (distant_iff lowFinite).mp distant
    exact (eq_of_place_eq lowFinite finite (by omega) (by omega)).symm

/-- With something to draw, a preview is completed exactly when not everything lies in one distant
column; in such a column the scale is a division by zero. -/
theorem render_completes_iff {options : PreviewOptions} {geometry : Geometry} {width height : Int}
    (wide : options.width = .whole width) (high : options.height = .whole height)
    (widthBound : width ≤ 2 ^ 31) (heightBound : height ≤ 2 ^ 31)
    (measured : options.textBox.InPixels)
    (drawable : ∃ segment, Drawn options geometry segment ∧
      (Edge.ofSegment false segment).isFinite = true) :
    ((render options geometry).Completes ↔ ¬ InDistantColumn options geometry) ∧
      (InDistantColumn options geometry →
        (render options geometry).ending = .error .divisionByZero) := by
  obtain ⟨segment, drawn, segmentFinite⟩ := drawable
  have listed : Edge.ofSegment false segment ∈ (Selection.ofGeometry options geometry).finite.edges :=
    Selection.mem_edges_finite.mpr ⟨segment, drawn, rfl, segmentFinite⟩
  obtain ⟨box, vertices, rendered, least, members⟩ := render_eq_draw listed
  obtain ⟨canvas, prepared, bounded⟩ :=
    PreviewOptions.canvas_of_whole wide high widthBound heightBound
  have column := inDistantColumn_iff_of_least least members
  have failing : InDistantColumn options geometry →
      (render options geometry).ending = .error .divisionByZero := by
    intro inColumn
    obtain ⟨same, distant⟩ := column.mp inColumn
    rw [rendered]
    exact draw_of_distant prepared bounded least.low_isFinite least.high_isFinite same distant
  refine ⟨⟨?_, ?_⟩, failing⟩
  · rintro ⟨⟨summary, ended⟩, -⟩ inColumn
    rw [failing inColumn] at ended
    cases ended
  · intro apart
    rw [column] at apart
    rw [rendered]
    apply draw_completes prepared bounded measured _ least.low_isFinite least.high_isFinite
    · intro same distant
      exact apart ⟨same, distant⟩
    · intro edge inside
      obtain ⟨_, _, _, finite⟩ := Selection.mem_edges_finite.mp inside
      exact finite

theorem render_completes_of_line :
    let geometry := Geometry.ofText .standard "G1 X10 E1\n" none
    (∃ segment, Drawn .standard geometry segment ∧ (Edge.ofSegment false segment).isFinite = true) ∧
      ¬ InDistantColumn .standard geometry ∧ (render .standard geometry).Completes := by
  intro geometry
  have slanted : ∃ edge ∈ (Selection.ofGeometry .standard geometry).finite.edges,
      edge.start.x ≠ edge.stop.x := by decide +kernel
  obtain ⟨edge, listed, apart⟩ := slanted
  have drawable : ∃ segment, Drawn .standard geometry segment ∧
      (Edge.ofSegment false segment).isFinite = true := by
    obtain ⟨segment, drawn, rfl, finite⟩ := Selection.mem_edges_finite.mp listed
    exact ⟨segment, drawn, finite⟩
  have outside : ¬ InDistantColumn .standard geometry := by
    rw [inDistantColumn_iff]
    rintro ⟨x, -, all⟩
    have start := all edge listed edge.start List.mem_cons_self
    have stop := all edge listed edge.stop (List.mem_cons_of_mem _ List.mem_cons_self)
    exact apart (start.trans stop.symm)
  have measured : TextBox.standard.InPixels :=
    ⟨show (0 : Int).natAbs ≤ 2 ^ 31 by decide, show (11 : Int).natAbs ≤ 2 ^ 31 by decide⟩
  exact ⟨drawable, outside,
    (render_completes_iff rfl rfl (by decide) (by decide) measured drawable).1.mpr outside⟩

/-- A column far out: widening by one on both sides leaves the range across without extent. -/
theorem render_of_far_column :
    let geometry := Geometry.ofText .standard "G92 X1e17\nG1 Y10 E1\n" none
    (∃ segment, Drawn .standard geometry segment ∧ (Edge.ofSegment false segment).isFinite = true) ∧
      (render .standard geometry).ending = .error .divisionByZero := by
  intro geometry
  have listed : ∃ edge ∈ (Selection.ofGeometry .standard geometry).finite.edges,
      edge.start.y ≠ edge.stop.y := by decide +kernel
  obtain ⟨edge, inside, -⟩ := listed
  obtain ⟨segment, drawn, rfl, finite⟩ := Selection.mem_edges_finite.mp inside
  exact ⟨⟨segment, drawn, finite⟩, by decide +kernel⟩

end Preview

end Toolpath
