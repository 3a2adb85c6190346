import Mathlib.Algebra.Order.Field.Rat
import Mathlib.Tactic.Linarith
import Mathlib.Tactic.Positivity
import Toolpath.Proofs.Rendering

/-! A drawing laid out in exact arithmetic stays within the margins of its canvas. -/

namespace Toolpath

instance : Scalar ℚ where
  abs number := |number|
  le left right := decide (left ≤ right)
  ofDecimal decimal := (if decimal.negative then -1 else 1) * decimal.digits * 10 ^ decimal.exponent
  ofInt value := .ok value
  exceeds number whole := decide ((whole : ℚ) < number)

def Frame.fit {α : Type} [Scalar α] (canvas : Canvas) (across up : Span α) :
    Except PreviewError (Frame α) := do
  let scale ← scaleFor canvas across.widened up.widened
  Frame.place canvas across.widened up.widened scale

def Binary.exactValue {format : Format} (number : Binary format) : ℚ := number.place / format.one

def exactSpan (box : Box) (coordinate : Vertex → Single) : Span ℚ :=
  ⟨(coordinate box.low).exactValue, (coordinate box.high).exactValue⟩

/-- Holds of the pixels between the margins of a canvas. -/
structure Canvas.Holds (canvas : Canvas) (pixel : ℚ × ℚ) : Prop where
  right_of_left : (canvas.padding : ℚ) ≤ pixel.1
  left_of_right : pixel.1 ≤ canvas.width - canvas.padding
  below_top : (canvas.padding : ℚ) ≤ pixel.2
  above_bottom : pixel.2 ≤ canvas.height - canvas.padding

/-- Holds of the frames that scale both directions alike, keeping left from right and turning up
from down. -/
structure Frame.Faithful (frame : Frame ℚ) : Prop where
  scale_pos : 0 < frame.scale
  across : ∀ x y x' y', (frame.project x' y').1 - (frame.project x y).1 = (x' - x) * frame.scale
  up : ∀ x y x' y', (frame.project x y).2 - (frame.project x' y').2 = (y' - y) * frame.scale
  left_le_right : ∀ x y x' y', x ≤ x' → (frame.project x y).1 ≤ (frame.project x' y').1
  above_le_below : ∀ x y x' y', y ≤ y' → (frame.project x' y').2 ≤ (frame.project x y).2

namespace Scalar

theorem digit_rat (value : Nat) (exponent : Int) :
    (digit value exponent : ℚ) = value * 10 ^ exponent := by
  change (1 : ℚ) * value * 10 ^ exponent = _
  rw [one_mul]

theorem digit_one_rat : (digit 1 0 : ℚ) = 1 := by
  rw [digit_rat]
  norm_num

theorem isZero_rat_iff (number : ℚ) : isZero number = true ↔ number = 0 := by
  have zero : (digit 0 0 : ℚ) = 0 := by
    rw [digit_rat]
    norm_num
  change (decide (number ≤ digit 0 0) && decide ((digit 0 0 : ℚ) ≤ number)) = true ↔ _
  rw [zero, Bool.and_eq_true, decide_eq_true_eq, decide_eq_true_eq, le_antisymm_iff]

theorem isClose_rat_self (number : ℚ) : isClose number number = true := by
  have none : |number - number| = 0 := by rw [sub_self, abs_zero]
  change (decide (|number - number| ≤ |_|) || _) = true
  rw [none, decide_eq_true (abs_nonneg _), Bool.true_or]

theorem divide_rat {left right : ℚ} (nonzero : right ≠ 0) :
    divide left right = .ok (left / right) := by
  rw [divide, if_neg (mt (isZero_rat_iff right).mp nonzero)]

end Scalar

namespace Span

variable {span : Span ℚ}

theorem extent_rat (span : Span ℚ) : span.extent = span.high - span.low := rfl

theorem widened_holds (span : Span ℚ) :
    span.widened.low ≤ span.low ∧ span.high ≤ span.widened.high := by
  unfold widened
  split
  · change span.low - Scalar.digit 1 0 ≤ span.low ∧ span.high ≤ span.high + Scalar.digit 1 0
    rw [Scalar.digit_one_rat]
    constructor <;> linarith
  · exact ⟨le_rfl, le_rfl⟩

theorem extent_widened_pos (ordered : span.low ≤ span.high) : 0 < span.widened.extent := by
  unfold widened
  split
  · change 0 < (span.high + Scalar.digit 1 0) - (span.low - Scalar.digit 1 0)
    rw [Scalar.digit_one_rat]
    linarith
  · rename_i apart
    have different : span.low ≠ span.high := by
      intro same
      rw [same] at apart
      exact apart (Scalar.isClose_rat_self _)
    rw [extent_rat]
    exact sub_pos.mpr (lt_of_le_of_ne ordered different)

end Span

theorem Canvas.cast_available {canvas : Canvas} {side : Nat} (roomy : 2 * canvas.padding < side) :
    ((canvas.available side : Int) : ℚ) = side - 2 * canvas.padding := by
  have left : canvas.available side + 2 * canvas.padding = side := by
    unfold available
    omega
  have same : ((canvas.available side + 2 * canvas.padding : Nat) : ℚ) = side := congrArg _ left
  push_cast at same ⊢
  linarith

/-- Holds of a scale at which two extents fit into a width and a height, and one of them exactly. -/
structure Tight (scale width height across up : ℚ) : Prop where
  scale_pos : 0 < scale
  across_le : across * scale ≤ width
  up_le : up * scale ≤ height
  reaches : across * scale = width ∨ up * scale = height

def fillingScale (width height across up : ℚ) : ℚ :=
  if height < up * (width / across) then height / up else width / across

theorem tight_fillingScale {width height across up : ℚ} (widthPos : 0 < width)
    (heightPos : 0 < height) (acrossPos : 0 < across) (upPos : 0 < up) :
    Tight (fillingScale width height across up) width height across up := by
  have filled : across * (width / across) = width := mul_div_cancel₀ width acrossPos.ne'
  have raised : up * (height / up) = height := mul_div_cancel₀ height upPos.ne'
  unfold fillingScale
  split
  · rename_i exceeded
    refine ⟨div_pos heightPos upPos, ?_, raised.le, .inr raised⟩
    have lower : height / up ≤ width / across := by
      rw [div_le_iff₀ upPos, mul_comm]
      exact exceeded.le
    calc across * (height / up) ≤ across * (width / across) :=
          mul_le_mul_of_nonneg_left lower acrossPos.le
      _ = width := filled
  · rename_i within
    exact ⟨div_pos widthPos acrossPos, filled.le, not_lt.mp within, .inl filled⟩

theorem fittedScale_rat {canvas : Canvas} {across up : Span ℚ} (acrossPos : 0 < across.extent)
    (upPos : 0 < up.extent) :
    fittedScale canvas across up =
      .ok (fillingScale (canvas.available canvas.width : Int)
        (canvas.available canvas.height : Int) across.extent up.extent) := by
  have lifted (count : Int) : (Scalar.lift count : Except PreviewError ℚ) = .ok count := rfl
  have exceeds (number : ℚ) (count : Int) :
      Scalar.exceeds number count = decide ((count : ℚ) < number) := rfl
  simp only [fittedScale, lifted, ok_bind, Scalar.divide_rat acrossPos.ne',
    Scalar.divide_rat upPos.ne', exceeds, decide_eq_true_eq, fillingScale]
  split <;> rfl

theorem exists_fittedScale {canvas : Canvas} {across up : Span ℚ}
    (wide : 2 * canvas.padding < canvas.width) (high : 2 * canvas.padding < canvas.height)
    (acrossPos : 0 < across.extent) (upPos : 0 < up.extent) :
    ∃ fitted, fittedScale canvas across up = .ok fitted ∧
      Tight fitted (canvas.width - 2 * canvas.padding) (canvas.height - 2 * canvas.padding)
        across.extent up.extent := by
  have room {side : Nat} (roomy : 2 * canvas.padding < side) :
      (0 : ℚ) < side - 2 * canvas.padding := by
    have cast : ((2 * canvas.padding : Nat) : ℚ) < side := Nat.cast_lt.mpr roomy
    push_cast at cast
    linarith
  refine ⟨_, fittedScale_rat acrossPos upPos, ?_⟩
  rw [Canvas.cast_available wide, Canvas.cast_available high]
  exact tight_fillingScale (room wide) (room high) acrossPos upPos

theorem scaleFor_rat {canvas : Canvas} {across up : Span ℚ} {fitted : ℚ}
    (found : fittedScale canvas across up = .ok fitted) :
    scaleFor canvas across up = .ok (max fitted leastScale) := by
  rw [scaleFor, found, ok_bind]
  have less : Scalar.lt fitted leastScale = true ↔ fitted < leastScale := by
    change (decide (fitted ≤ leastScale) && !decide (leastScale ≤ fitted)) = true ↔ _
    rw [Bool.and_eq_true, Bool.not_eq_true', decide_eq_true_eq, decide_eq_false_iff_not,
      lt_iff_le_not_ge]
  rcases lt_or_ge fitted leastScale with below | above
  · rw [if_pos (less.mpr below), max_eq_right below.le]
    rfl
  · rw [if_neg (mt less.mp (not_lt.mpr above)), max_eq_left above]
    rfl

namespace Frame

theorem project_rat (frame : Frame ℚ) (x y : ℚ) : frame.project x y =
    (frame.padding + (x - frame.left) * frame.scale,
      frame.height - (frame.padding + (y - frame.bottom) * frame.scale)) := rfl

theorem faithful_of_pos {frame : Frame ℚ} (positive : 0 < frame.scale) : frame.Faithful where
  scale_pos := positive
  across x y x' y' := by
    rw [project_rat, project_rat]
    ring
  up x y x' y' := by
    rw [project_rat, project_rat]
    ring
  left_le_right x y x' y' order := by
    have scaled := mul_le_mul_of_nonneg_right (sub_le_sub_right order frame.left) positive.le
    rw [project_rat, project_rat]
    linarith
  above_le_below x y x' y' order := by
    have scaled := mul_le_mul_of_nonneg_right (sub_le_sub_right order frame.bottom) positive.le
    rw [project_rat, project_rat]
    linarith

end Frame

theorem Binary.exactValue_le {format : Format} {left right : Binary format}
    (order : left.place ≤ right.place) : left.exactValue ≤ right.exactValue := by
  have positive : (0 : ℚ) < format.one := by exact_mod_cast Nat.two_pow_pos format.fraction
  exact div_le_div_of_nonneg_right (by exact_mod_cast order) positive.le

theorem Frame.place_rat (canvas : Canvas) (across up : Span ℚ) (scale : ℚ) :
    Frame.place canvas across up scale =
      .ok ⟨canvas.padding, canvas.height, across.low, up.low, scale⟩ := rfl

theorem Frame.holds_project {canvas : Canvas} {across up : Span ℚ} {scale x y : ℚ}
    (tight : Tight scale (canvas.width - 2 * canvas.padding) (canvas.height - 2 * canvas.padding)
      across.extent up.extent)
    (right : across.low ≤ x) (left : x ≤ across.high) (above : up.low ≤ y) (below : y ≤ up.high) :
    canvas.Holds
      (Frame.project ⟨canvas.padding, canvas.height, across.low, up.low, scale⟩ x y) := by
  have nonnegative := tight.scale_pos.le
  have start := mul_nonneg (sub_nonneg.mpr right) nonnegative
  have stop : (x - across.low) * scale ≤ across.extent * scale :=
    mul_le_mul_of_nonneg_right (sub_le_sub_right left across.low) nonnegative
  have bottom := mul_nonneg (sub_nonneg.mpr above) nonnegative
  have top : (y - up.low) * scale ≤ up.extent * scale :=
    mul_le_mul_of_nonneg_right (sub_le_sub_right below up.low) nonnegative
  have across_le := tight.across_le
  have up_le := tight.up_le
  rw [project_rat]
  constructor <;> dsimp only <;> linarith

theorem Preview.fit_of_layout {canvas : Canvas} {box : Box} {plan : Layout}
    (planned : layout canvas box = .ok plan) :
    Frame.fit canvas (span box Vertex.x) (span box Vertex.y) = .ok plan.frame := by
  unfold layout at planned
  obtain ⟨scale, scaled, planned⟩ := exists_of_bind planned
  obtain ⟨axisWidth, -, planned⟩ := exists_of_bind planned
  obtain ⟨frame, placed, planned⟩ := exists_of_bind planned
  obtain ⟨lineWidth, -, planned⟩ := exists_of_bind planned
  cases planned
  rw [Frame.fit, scaled, ok_bind, placed]

/-- A drawing fits its canvas. In exact arithmetic its frame is always found. It scales both
directions alike, and unless the fitted scale is raised to the least one, it places every finite
vertex within the margins and fills what they leave across or up. -/
theorem fit_within_margins {canvas : Canvas} {buffers : List Buffer} {box : Box}
    (found : Box.ofBuffers? buffers = some box)
    (wide : 2 * canvas.padding < canvas.width) (high : 2 * canvas.padding < canvas.height) :
    let across := exactSpan box Vertex.x
    let up := exactSpan box Vertex.y
    (∀ plan, Preview.layout canvas box = .ok plan →
      Frame.fit canvas (Preview.span box Vertex.x) (Preview.span box Vertex.y) =
        .ok plan.frame) ∧
    ∃ (fitted : ℚ) (frame : Frame ℚ),
      fittedScale canvas across.widened up.widened = .ok fitted ∧
      Frame.fit canvas across up = .ok frame ∧
      frame.scale = max fitted leastScale ∧ frame.Faithful ∧
      (leastScale ≤ fitted →
        (∀ buffer ∈ buffers, ∀ vertex ∈ buffer.vertices, vertex.isFinite = true →
          canvas.Holds (frame.project vertex.x.exactValue vertex.y.exactValue)) ∧
        (across.widened.extent * frame.scale = canvas.width - 2 * canvas.padding ∨
          up.widened.extent * frame.scale = canvas.height - 2 * canvas.padding)) := by
  intro across up
  have least := Box.least_of_ofVertices? found fun vertex inside => (List.mem_filter.mp inside).2
  have inside {buffer : Buffer} {vertex : Vertex} (listed : buffer ∈ buffers)
      (tip : vertex ∈ buffer.vertices) (finite : vertex.isFinite = true) :
      vertex ∈ (buffers.flatMap Buffer.vertices).filter Vertex.isFinite :=
    List.mem_filter.mpr ⟨List.mem_flatMap.mpr ⟨buffer, listed, tip⟩, finite⟩
  have ordered {coordinate : Vertex → Single} {vertices : List Vertex}
      (spans : box.Spans coordinate vertices) :
      (exactSpan box coordinate).low ≤ (exactSpan box coordinate).high := by
    obtain ⟨vertex, listed, same⟩ := spans.low_mem
    have order := spans.le_high vertex listed
    rw [← same] at order
    exact Binary.exactValue_le order
  obtain ⟨acrossLow, acrossHigh⟩ := across.widened_holds
  obtain ⟨upLow, upHigh⟩ := up.widened_holds
  obtain ⟨fitted, fits, tight⟩ := exists_fittedScale wide high
    (Span.extent_widened_pos (ordered least.spans_x))
    (Span.extent_widened_pos (ordered least.spans_y))
  refine ⟨fun plan => Preview.fit_of_layout, fitted,
    ⟨canvas.padding, canvas.height, across.widened.low, up.widened.low, max fitted leastScale⟩,
    fits, ?_, rfl, Frame.faithful_of_pos (lt_max_of_lt_left tight.scale_pos), ?_⟩
  · rw [Frame.fit, scaleFor_rat fits, ok_bind, Frame.place_rat]
  · intro kept
    rw [max_eq_left kept]
    refine ⟨?_, tight.reaches⟩
    intro buffer listed vertex tip finite
    have member := inside listed tip finite
    apply Frame.holds_project tight
    · exact acrossLow.trans (Binary.exactValue_le (least.spans_x.low_le vertex member))
    · exact (Binary.exactValue_le (least.spans_x.le_high vertex member)).trans acrossHigh
    · exact upLow.trans (Binary.exactValue_le (least.spans_y.low_le vertex member))
    · exact (Binary.exactValue_le (least.spans_y.le_high vertex member)).trans upHigh

theorem fit_within_margins_of_slant :
    let geometry := Geometry.ofText .standard "G1 X10 Y5 E1\n" none
    let selection := (Selection.ofGeometry .standard geometry).finite
    let canvas : Canvas := ⟨768, 512⟩
    let box : Box := ⟨⟨0, 0, 0⟩, ⟨10, 5, 0⟩⟩
    Box.ofBuffers? selection.buffers = some box ∧
      2 * canvas.padding < canvas.width ∧ 2 * canvas.padding < canvas.height ∧
      ∃ frame : Frame ℚ,
        Frame.fit canvas (exactSpan box Vertex.x) (exactSpan box Vertex.y) = .ok frame ∧
        frame.scale = 342 / 5 ∧ frame.Faithful ∧
        ∀ buffer ∈ selection.buffers, ∀ vertex ∈ buffer.vertices, vertex.isFinite = true →
          canvas.Holds (frame.project vertex.x.exactValue vertex.y.exactValue) := by
  intro geometry selection canvas box
  have found : Box.ofBuffers? selection.buffers = some box := by decide +kernel
  have wide : 2 * canvas.padding < canvas.width := by decide
  have high : 2 * canvas.padding < canvas.height := by decide
  have least : (leastScale : ℚ) ≤ 342 / 5 := by
    rw [leastScale, Scalar.digit_rat]
    norm_num
  have filled : fittedScale canvas (exactSpan box Vertex.x).widened
      (exactSpan box Vertex.y).widened = .ok (342 / 5 : ℚ) := by decide +kernel
  obtain ⟨-, fitted, frame, fits, framed, scaled, faithful, within⟩ :=
    fit_within_margins found wide high
  obtain rfl : fitted = 342 / 5 := Except.ok.inj (fits.symm.trans filled)
  exact ⟨found, wide, high, frame, framed, scaled.trans (max_eq_left least), faithful,
    (within least).1⟩

end Toolpath
