import Toolpath.Proofs.Extent

/-!
The quantities of a layout stay within powers of two that doubles reach. Only the division by the
extent across can fail, and does when that extent is zero.
-/

namespace Toolpath

open Binary

theorem ok_bind {cause α β : Type} (value : α) (next : α → Except cause β) :
    ((.ok value : Except cause α) >>= next) = next value := rfl

theorem error_bind {cause α β : Type} (reason : cause) (next : α → Except cause β) :
    ((.error reason : Except cause α) >>= next) = .error reason := rfl

theorem exists_of_bind {cause α β : Type} {first : Except cause α} {next : α → Except cause β}
    {result : β} (bound : (first >>= next) = .ok result) :
    ∃ value, first = .ok value ∧ next value = .ok result := by
  cases first with
  | error reason => cases bound
  | ok value => exact ⟨value, rfl, bound⟩

theorem bind_ne_error {cause α β : Type} {reason : cause} {first : Except cause α}
    {next : α → Except cause β} (firstNe : first ≠ .error reason)
    (nextNe : ∀ value, next value ≠ .error reason) : (first >>= next) ≠ .error reason := by
  cases first with
  | ok value => exact nextNe value
  | error other =>
      rintro ⟨⟩
      exact firstNe rfl

theorem ofInt?_of_isFinite {format : Format} {value : Int}
    (finite : (ofInt value : Binary format).isFinite = true) :
    (ofInt? value : Option (Binary format)) = some (ofInt value) := by
  obtain ⟨negative, steps, exact, placed⟩ := exists_eq_finite finite
  rw [ofInt?, placed]

theorem within_ofInt {format : Format} {value : Int} {exponent total : Nat}
    (small : value.natAbs ≤ 2 ^ exponent) (exponents : exponent + format.fraction = total)
    (reach : total < format.reach) : (ofInt value : Binary format).Within total := by
  have steps : value.natAbs * format.one ≤ 1 * 2 ^ total := by
    rw [Nat.one_mul, ← exponents, Nat.pow_add]
    exact Nat.mul_le_mul_right _ small
  exact (within_round _ _ 1 total reach steps).1

theorem doubleOfInt_of_some {value : Int} {number : Double} (found : ofInt? value = some number) :
    doubleOfInt value = .ok number := by
  rw [doubleOfInt, found, Option.elim_some]

theorem within_doubleOfInt {value : Int} (small : value.natAbs ≤ 2 ^ 31) :
    ∃ number, doubleOfInt value = .ok number ∧ number.Within 1105 := by
  have exponents : 31 + Format.double.fraction = 1105 := rfl
  have within : (ofInt value : Double).Within 1105 := within_ofInt small exponents (by decide)
  exact ⟨ofInt value, doubleOfInt_of_some (ofInt?_of_isFinite within.1), within⟩

theorem within_lift {count : Nat} (small : count ≤ 2 ^ 31) :
    ∃ number : Double, Scalar.lift (count : Int) = .ok number ∧ number.Within 1105 := by
  have magnitude : (count : Int).natAbs ≤ 2 ^ 31 := by omega
  obtain ⟨number, converted, within⟩ := within_doubleOfInt magnitude
  refine ⟨number, ?_, within⟩
  change (doubleOfInt count).mapError PreviewError.conversion = .ok number
  rw [converted]
  rfl

theorem isZero_iff {number : Double} (finite : number.isFinite = true) :
    Scalar.isZero number = true ↔ number.place = 0 := by
  change (number.le (Scalar.digit 0 0) && (Scalar.digit 0 0 : Double).le number) = true ↔ _
  rw [digit_zero, Bool.and_eq_true, le_iff_place finite rfl, le_iff_place rfl finite, place_zero]
  omega

theorem divide_eq {left right : Double} (finite : right.isFinite = true) :
    Scalar.divide left right =
      if right.place = 0 then .error .divisionByZero else .ok (left / right) := by
  simp only [Scalar.divide, isZero_iff finite]

theorem place_of_exceeds {number : Double} {whole : Nat} (finite : number.isFinite = true)
    (exceeds : Scalar.exceeds number (whole : Int) = true) : 0 < number.place := by
  obtain ⟨negative, steps, exact, rfl⟩ := exists_eq_finite finite
  change decide ((whole : Int) * Format.double.one < signed negative steps) = true at exceeds
  have above := of_decide_eq_true exceeds
  have nonnegative : 0 ≤ (whole : Int) * Format.double.one :=
    Int.mul_nonneg (Int.natCast_nonneg _) (Int.natCast_nonneg _)
  exact Int.lt_of_le_of_lt nonnegative above

theorem place_mul_of_zero {format : Format} {left right : Binary format}
    (leftFinite : left.isFinite = true) (rightFinite : right.isFinite = true)
    (zero : left.place = 0) : (left * right).place = 0 := by
  obtain ⟨negative, steps, exact, rfl⟩ := exists_eq_finite leftFinite
  obtain ⟨opposite, more, exactMore, rfl⟩ := exists_eq_finite rightFinite
  have none : steps = 0 := by
    rw [← natAbs_signed negative steps]
    exact congrArg Int.natAbs zero
  have rounded : format.nearest (steps * more) format.one = 0 :=
    format.nearest_eq (Nat.two_pow_pos _) (Nat.dvd_zero _) (by simp [none])
  have placed := (round_of_lt (negative != opposite) (steps * more) format.one
    (by rw [rounded]; exact format.limit_pos)).2
  change (round _ _ _ : Binary format).place = 0
  rw [placed, rounded]
  cases negative <;> cases opposite <;> rfl

/-- Holds of the canvases with no side of more than `2 ^ 31` pixels. -/
def Canvas.Bounded (canvas : Canvas) : Prop :=
  canvas.width ≤ 2 ^ 31 ∧ canvas.height ≤ 2 ^ 31

theorem Canvas.padding_le {canvas : Canvas} (bounded : canvas.Bounded) :
    canvas.padding ≤ 2 ^ 31 := by
  obtain ⟨width, _⟩ := bounded
  unfold padding
  omega

theorem Canvas.available_le (canvas : Canvas) {side : Nat} (bounded : side ≤ 2 ^ 31) :
    canvas.available side ≤ 2 ^ 31 := by
  unfold available
  omega

section Scale

variable {canvas : Canvas} {across up : Span Double} (bounded : canvas.Bounded)
  (acrossWithin : across.extent.Within 1204)

include bounded acrossWithin

theorem fittedScale_of_zero (zero : across.extent.place = 0) :
    fittedScale canvas across up = .error .divisionByZero := by
  obtain ⟨width, lifted, -⟩ := within_lift (canvas.available_le bounded.1)
  rw [fittedScale, lifted, ok_bind, divide_eq acrossWithin.1, if_pos zero, error_bind]

theorem within_fittedScale (upWithin : up.extent.Within 1204)
    (acrossReaches : across.extent.Reaches 925)
    (upReaches : up.extent.place ≠ 0 → up.extent.Reaches 925) :
    ∃ scale, fittedScale canvas across up = .ok scale ∧ scale.Within 1254 := by
  obtain ⟨width, liftedWidth, widthWithin⟩ := within_lift (canvas.available_le bounded.1)
  obtain ⟨height, liftedHeight, heightWithin⟩ := within_lift (canvas.available_le bounded.2)
  have wide : (width / across.extent).Within 1254 :=
    within_div widthWithin acrossWithin.1 acrossReaches rfl (by decide)
  rw [fittedScale, liftedWidth, ok_bind, divide_eq acrossWithin.1,
    if_neg acrossReaches.place_ne_zero, ok_bind]
  by_cases exceeds : Scalar.exceeds (up.extent * (width / across.extent))
      (canvas.available canvas.height : Int) = true
  · have product : (up.extent * (width / across.extent)).Within 1384 :=
      within_mul upWithin wide rfl (by decide)
    have above := place_of_exceeds product.1 exceeds
    have nonzero : up.extent.place ≠ 0 := by
      intro zero
      have flat := place_mul_of_zero upWithin.1 wide.1 zero
      omega
    refine ⟨height / up.extent, ?_,
      within_div heightWithin upWithin.1 (upReaches nonzero) rfl (by decide)⟩
    rw [if_pos exceeds, liftedHeight, ok_bind, divide_eq upWithin.1, if_neg nonzero]
  · exact ⟨width / across.extent, by rw [if_neg exceeds]; rfl, wide⟩

theorem scaleFor_of_zero (zero : across.extent.place = 0) :
    scaleFor canvas across up = .error .divisionByZero := by
  rw [scaleFor, fittedScale_of_zero bounded acrossWithin zero, error_bind]

theorem within_scaleFor (upWithin : up.extent.Within 1204)
    (acrossReaches : across.extent.Reaches 925)
    (upReaches : up.extent.place ≠ 0 → up.extent.Reaches 925) :
    ∃ scale, scaleFor canvas across up = .ok scale ∧ scale.Within 1254 := by
  obtain ⟨fitted, found, within⟩ :=
    within_fittedScale bounded acrossWithin upWithin acrossReaches upReaches
  rw [scaleFor, found, ok_bind]
  refine ⟨_, rfl, ?_⟩
  split
  · exact within_leastScale.mono (by decide)
  · exact within

end Scale

theorem truncateDouble_of_isFinite {number : Double} (finite : number.isFinite = true) :
    ∃ whole, truncateDouble number = .ok whole := by
  obtain ⟨negative, steps, exact, rfl⟩ := exists_eq_finite finite
  exact ⟨_, rfl⟩

theorem exists_strokeWidth {scale : Double} (within : scale.Within 1254) {tenths : Nat}
    (few : tenths = 4 ∨ tenths = 5) : ∃ width, Preview.strokeWidth scale tenths = .ok width := by
  have product : (scale * Scalar.digit tenths (-1)).Within 1254 :=
    within_mul within (within_digit_tenths tenths few) rfl (by decide)
  obtain ⟨whole, truncated⟩ := truncateDouble_of_isFinite product.1
  exact ⟨max 1 whole, by rw [Preview.strokeWidth, truncated]; rfl⟩

/-- Holds of the frames that keep the points they place within reach of doubles. -/
structure Frame.Bounded (frame : Frame Double) : Prop where
  padding : frame.padding.Within 1105
  height : frame.height.Within 1105
  left : frame.left.Within 1203
  bottom : frame.bottom.Within 1203
  scale : frame.scale.Within 1254

theorem isFinite_project {frame : Frame Double} (bounded : frame.Bounded) {x y : Double}
    (xWithin : x.Within 1203) (yWithin : y.Within 1203) :
    (frame.project x y).1.isFinite = true ∧ (frame.project x y).2.isFinite = true := by
  have offset {origin coordinate : Double} (originWithin : origin.Within 1203)
      (within : coordinate.Within 1203) :
      (frame.padding + (coordinate - origin) * frame.scale).Within 1385 := by
    have difference := (within_sub within originWithin (by decide)).1
    have scaled : ((coordinate - origin) * frame.scale).Within 1384 :=
      within_mul difference bounded.scale rfl (by decide)
    exact (within_add (bounded.padding.mono (by decide)) scaled (by decide)).1
  have across := offset bounded.left xWithin
  have up := offset bounded.bottom yWithin
  exact ⟨across.1, (within_sub (bounded.height.mono (by decide)) up (by decide)).1.1⟩

def DrawCall.coordinates : DrawCall → List Double
  | .line start stop _ _ => [start.1, start.2, stop.1, stop.2]
  | _ => []

def FiniteLines (calls : List DrawCall) : Prop :=
  ∀ call ∈ calls, ∀ coordinate ∈ call.coordinates, coordinate.isFinite = true

theorem finiteLines_append {first second : List DrawCall} :
    FiniteLines (first ++ second) ↔ FiniteLines first ∧ FiniteLines second :=
  List.forall_mem_append

theorem finiteLines_line {frame : Frame Double} (bounded : frame.Bounded)
    {startX startY stopX stopY : Double} (startXWithin : startX.Within 1203)
    (startYWithin : startY.Within 1203) (stopXWithin : stopX.Within 1203)
    (stopYWithin : stopY.Within 1203) (color : Color) (width : Int) :
    FiniteLines [.line (frame.project startX startY) (frame.project stopX stopY) color width] := by
  obtain ⟨startAcross, startUp⟩ := isFinite_project bounded startXWithin startYWithin
  obtain ⟨stopAcross, stopUp⟩ := isFinite_project bounded stopXWithin stopYWithin
  intro call listed coordinate drawn
  rw [List.mem_singleton.mp listed] at drawn
  simp only [DrawCall.coordinates, List.mem_cons, List.not_mem_nil, or_false] at drawn
  rcases drawn with rfl | rfl | rfl | rfl
  · exact startAcross
  · exact startUp
  · exact stopAcross
  · exact stopUp

namespace Preview

structure Layout.Bounded (layout : Layout) : Prop where
  frame : layout.frame.Bounded
  across : layout.across.low.Within 1203 ∧ layout.across.high.Within 1203
  up : layout.up.low.Within 1203 ∧ layout.up.high.Within 1203

theorem finiteLines_axisLines {layout : Layout} (bounded : layout.Bounded) (color : Color)
    (width : Int) :
    FiniteLines (axisLines layout.frame layout.across layout.up color width) := by
  have zeroWithin : (zero false : Double).Within 1203 := within_zero false 1203
  unfold axisLines
  rw [finiteLines_append]
  constructor
  · split
    · exact finiteLines_line bounded.frame zeroWithin bounded.up.1 zeroWithin bounded.up.2 _ _
    · simp [FiniteLines]
  · split
    · exact finiteLines_line bounded.frame bounded.across.1 zeroWithin bounded.across.2 zeroWithin
        _ _
    · simp [FiniteLines]

theorem within_widen_of_isFinite {vertex : Vertex} (finite : vertex.isFinite = true) :
    (widen vertex.x).Within 1203 ∧ (widen vertex.y).Within 1203 := by
  obtain ⟨xFinite, yFinite, -⟩ := Vertex.isFinite_iff.mp finite
  exact ⟨(place_widen xFinite).2.mono (by decide), (place_widen yFinite).2.mono (by decide)⟩

theorem finiteLines_edgeLines {frame : Frame Double} (bounded : frame.Bounded) (palette : Palette)
    (width : Int) {buffer : Buffer} (finite : ∀ edge ∈ buffer.edges, edge.isFinite = true) :
    FiniteLines (edgeLines frame palette width buffer) := by
  intro call listed
  obtain ⟨edge, drawn, rfl⟩ := List.mem_map.mp listed
  have ends := Edge.isFinite_iff.mp (finite edge drawn)
  obtain ⟨startX, startY⟩ := within_widen_of_isFinite (ends edge.start List.mem_cons_self)
  obtain ⟨stopX, stopY⟩ := within_widen_of_isFinite
    (ends edge.stop (List.mem_cons_of_mem _ List.mem_cons_self))
  exact finiteLines_line bounded startX startY stopX stopY _ width _ (List.mem_singleton_self _)

theorem finiteLines_lineCalls {layout : Layout} (bounded : layout.Bounded) (palette : Palette)
    {selection : Selection} (finite : ∀ edge ∈ selection.edges, edge.isFinite = true) :
    FiniteLines (lineCalls palette layout selection) := by
  unfold lineCalls
  rw [finiteLines_append]
  refine ⟨finiteLines_axisLines bounded _ _, ?_⟩
  intro call listed
  obtain ⟨buffer, ordered, drawn⟩ := List.mem_flatMap.mp listed
  have member : buffer ∈ selection.buffers := by
    rcases List.mem_append.mp ordered with travel | other
    · exact (List.mem_filter.mp travel).1
    · exact (List.mem_filter.mp other).1
  exact finiteLines_edgeLines bounded.frame palette layout.lineWidth
    (fun edge inside => finite edge (List.mem_flatMap.mpr ⟨buffer, member, inside⟩)) call drawn

theorem finiteLines_textCalls (canvas : Canvas) (color : Color) (height : Int)
    (lines : List String) : FiniteLines (textCalls canvas color height lines) := by
  intro call listed
  obtain ⟨entry, _, rfl⟩ := List.mem_map.mp listed
  simp [DrawCall.coordinates]

section Layout

variable {canvas : Canvas} {box : Box} (bounded : canvas.Bounded)
  (lowFinite : box.low.isFinite = true) (highFinite : box.high.isFinite = true)

include bounded lowFinite highFinite

theorem layout_of_distant (same : box.low.x.place = box.high.x.place)
    (distant : Distant box.low.x) : layout canvas box = .error .divisionByZero := by
  obtain ⟨lowX, -, -⟩ := Vertex.isFinite_iff.mp lowFinite
  obtain ⟨highX, -, -⟩ := Vertex.isFinite_iff.mp highFinite
  have acrossWithin := within_extent_widened lowX highX
  have zero := extent_widened_of_distant lowX highX same distant
  unfold layout
  change (scaleFor canvas (between box.low.x box.high.x).widened _ >>= _) = _
  rw [scaleFor_of_zero bounded acrossWithin zero, error_bind]

theorem exists_layout (apart : box.low.x.place = box.high.x.place → ¬ Distant box.low.x) :
    ∃ result, layout canvas box = .ok result ∧ result.Bounded := by
  obtain ⟨lowX, lowY, -⟩ := Vertex.isFinite_iff.mp lowFinite
  obtain ⟨highX, highY, -⟩ := Vertex.isFinite_iff.mp highFinite
  have acrossEnds := within_widened lowX highX
  have upEnds := within_widened lowY highY
  have upReaches : (between box.low.y box.high.y).widened.extent.place ≠ 0 →
      (between box.low.y box.high.y).widened.extent.Reaches 925 := by
    intro nonzero
    apply reaches_extent_widened lowY highY
    intro same distant
    exact nonzero (extent_widened_of_distant lowY highY same distant)
  obtain ⟨scale, scaled, scaleWithin⟩ := within_scaleFor bounded
    (within_extent_widened lowX highX)
    (within_extent_widened lowY highY)
    (reaches_extent_widened lowX highX apart) upReaches
  obtain ⟨axisWidth, axisFound⟩ := exists_strokeWidth scaleWithin (Or.inr rfl)
  obtain ⟨lineWidth, lineFound⟩ := exists_strokeWidth scaleWithin (Or.inl rfl)
  obtain ⟨padding, liftedPadding, paddingWithin⟩ := within_lift (Canvas.padding_le bounded)
  obtain ⟨height, liftedHeight, heightWithin⟩ := within_lift bounded.2
  let frame : Frame Double := ⟨padding, height, (between box.low.x box.high.x).widened.low,
    (between box.low.y box.high.y).widened.low, scale⟩
  have placed : Frame.place canvas (between box.low.x box.high.x).widened
      (between box.low.y box.high.y).widened scale = .ok frame := by
    rw [Frame.place, liftedPadding, ok_bind, liftedHeight, ok_bind]
    rfl
  refine ⟨⟨frame, (between box.low.x box.high.x).widened, (between box.low.y box.high.y).widened,
    axisWidth, min 4 lineWidth⟩, ?_, ?_⟩
  · unfold layout
    change (scaleFor canvas (between box.low.x box.high.x).widened
      (between box.low.y box.high.y).widened >>= _) = _
    rw [scaled, ok_bind, axisFound, ok_bind]
    change (Frame.place canvas (between box.low.x box.high.x).widened
      (between box.low.y box.high.y).widened scale >>= _) = _
    rw [placed, ok_bind, lineFound, ok_bind]
    rfl
  · exact ⟨⟨paddingWithin, heightWithin, acrossEnds.1, upEnds.1, scaleWithin⟩, acrossEnds, upEnds⟩

end Layout

end Preview

end Toolpath
