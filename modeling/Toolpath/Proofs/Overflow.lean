import Toolpath.Proofs.Whole
import Toolpath.Vertex

/-! How large a number may be to stay finite in a format: less than the middle between its greatest
number and the one that would follow. -/

namespace Toolpath

namespace Format

variable (format : Format)

def widestSpacing : Nat := 2 ^ (format.reach - format.precision)

theorem spacing_of_reaching {steps : Nat} (reached : 2 ^ (format.reach - 1) ≤ steps)
    (below : steps < format.limit) (roomy : format.precision ≤ format.reach) :
    format.spacing steps = format.widestSpacing := by
  have precision := format.precision_pos
  have positive := Nat.two_pow_pos (format.reach - 1)
  have low : format.reach - 1 ≤ steps.log2 := (Nat.le_log2 (by omega)).mpr reached
  have high : steps.log2 < format.reach := log2_lt_of_lt (by omega) below
  rw [spacing, widestSpacing, show steps.log2 + 1 = format.reach by omega, Nat.pow_eq]

theorem limit_eq (roomy : format.precision ≤ format.reach) :
    format.limit = 2 * 2 ^ (format.precision - 1) * format.widestSpacing := by
  have precision := format.precision_pos
  rw [limit, widestSpacing, Nat.pow_eq, ← Nat.pow_succ', ← Nat.pow_add]
  congr 1
  omega

theorem nearest_lt_limit_iff_of_reaching {numerator denominator : Nat} (positive : 0 < denominator)
    (roomy : format.precision ≤ format.reach)
    (reached : 2 ^ (format.reach - 1) ≤ numerator / denominator)
    (below : numerator / denominator < format.limit) :
    format.nearest numerator denominator < format.limit ↔
      2 * numerator + denominator * format.widestSpacing < 2 * (denominator * format.limit) := by
  have unitPositive : 0 < format.widestSpacing := Nat.two_pow_pos _
  have cellPositive := Nat.mul_pos positive unitPositive
  have numeratorBelow : numerator < denominator * format.limit := by
    rwa [Nat.div_lt_iff_lt_mul positive, Nat.mul_comm] at below
  have rounded : format.nearest numerator denominator =
      halfEven numerator (denominator * format.widestSpacing) * format.widestSpacing := by
    rw [nearest, format.spacing_of_reaching reached below roomy]
  have whole := format.limit_eq roomy
  have limitCells : denominator * format.limit =
      2 * 2 ^ (format.precision - 1) * (denominator * format.widestSpacing) := by
    rw [whole, Nat.mul_left_comm]
  rw [limitCells] at numeratorBelow
  rw [rounded, limitCells, whole, Nat.mul_lt_mul_right unitPositive]
  constructor
  · intro less
    by_contra large
    have even := halfEven_eq_even numerator (denominator * format.widestSpacing)
      (2 ^ (format.precision - 1)) cellPositive (by omega) (by omega)
    omega
  · intro small
    have distance := (halfEven_distance numerator _ cellPositive).1
    by_contra large
    have scaled := Nat.mul_le_mul_right (denominator * format.widestSpacing)
      (Nat.le_of_not_lt large)
    omega

/-- A quotient is rounded to a number below the reach exactly when it lies below the middle of the
last two numbers, of which the reach is one. -/
theorem nearest_lt_limit_iff {numerator denominator : Nat} (positive : 0 < denominator)
    (roomy : format.precision ≤ format.reach) :
    format.nearest numerator denominator < format.limit ↔
      2 * numerator + denominator * format.widestSpacing < 2 * (denominator * format.limit) := by
  have precision := format.precision_pos
  have halved : format.limit = 2 * 2 ^ (format.reach - 1) := by
    rw [limit, Nat.pow_eq, ← Nat.pow_succ']
    congr 1
    omega
  rcases Nat.lt_or_ge (numerator / denominator) format.limit with below | beyond
  · rcases Nat.lt_or_ge (numerator / denominator) (2 ^ (format.reach - 1)) with inner | outer
    · have numeratorInner : numerator < denominator * 2 ^ (format.reach - 1) := by
        rwa [Nat.div_lt_iff_lt_mul positive, Nat.mul_comm] at inner
      have rounded := format.nearest_le (format.spacing_dvd_two_pow (format.reach - 1))
        (Nat.le_of_lt numeratorInner)
      have unitLe : format.widestSpacing ≤ 2 ^ (format.reach - 1) :=
        Nat.pow_le_pow_right (by decide) (by omega)
      have scaled := Nat.mul_le_mul_left denominator unitLe
      have doubled : denominator * format.limit = 2 * (denominator * 2 ^ (format.reach - 1)) := by
        rw [halved, Nat.mul_left_comm]
      have reachPositive := Nat.two_pow_pos (format.reach - 1)
      constructor <;> intro _ <;> omega
    · exact format.nearest_lt_limit_iff_of_reaching positive roomy outer below
  · have numeratorBeyond : denominator * format.limit ≤ numerator := by
      rwa [ge_iff_le, Nat.le_div_iff_mul_le positive, Nat.mul_comm] at beyond
    have limitExact : format.spacing format.limit ∣ format.limit :=
      format.spacing_dvd_two_pow format.reach
    have rounded := format.le_nearest positive limitExact numeratorBeyond
    have unitPositive : 0 < format.widestSpacing := Nat.two_pow_pos _
    have cellPositive := Nat.mul_pos positive unitPositive
    constructor <;> intro _ <;> omega

end Format

namespace Binary

theorem isFinite_round_iff {format : Format} (negative : Bool) (numerator denominator : Nat) :
    (round negative numerator denominator : Binary format).isFinite = true ↔
      format.nearest numerator denominator < format.limit := by
  unfold round
  split <;> simp_all [isFinite]

/-- Holds of the doubles that are finite in single precision: those of a magnitude below
`2 ^ 128 - 2 ^ 103`. -/
def FitsSingle (number : Double) : Prop :=
  number.isFinite = true ∧ number.place.natAbs < (2 ^ 128 - 2 ^ 103) * Format.double.one

instance (number : Double) : Decidable number.FitsSingle :=
  inferInstanceAs (Decidable (number.isFinite = true ∧
    number.place.natAbs < (2 ^ 128 - 2 ^ 103) * Format.double.one))

theorem isFinite_toSingle_iff (number : Double) :
    (number.toFormat .single).isFinite = true ↔ number.FitsSingle := by
  cases number with
  | nan => simp [toFormat, isFinite, FitsSingle]
  | infinite negative => simp [toFormat, isFinite, FitsSingle]
  | finite negative steps exact =>
      have positive : 0 < Format.double.one := Int.natCast_pos.mp (Format.one_pos _)
      have unitPositive : 0 < Format.single.one := Int.natCast_pos.mp (Format.one_pos _)
      have limit : Format.single.limit = 2 ^ 128 * Format.single.one := by decide +kernel
      have widest : Format.single.widestSpacing = 2 ^ 104 * Format.single.one := by decide +kernel
      rw [toFormat, isFinite_round_iff, FitsSingle, place, natAbs_signed]
      simp only [isFinite, true_and]
      generalize Format.double.one = one at positive ⊢
      rw [Format.single.nearest_lt_limit_iff positive (by decide), limit, widest]
      have counted : 2 * (steps * Format.single.one) + one * (2 ^ 104 * Format.single.one) <
          2 * (one * (2 ^ 128 * Format.single.one)) ↔
          (2 * steps + one * 2 ^ 104) * Format.single.one <
            2 * (one * 2 ^ 128) * Format.single.one := by
        rw [Nat.add_mul]
        simp only [Nat.mul_assoc]
      rw [counted, Nat.mul_lt_mul_right unitPositive]
      omega

end Binary

theorem Vertex.isFinite_ofPoint_iff (point : Point) : (ofPoint point).isFinite = true ↔
    ∀ coordinate ∈ point.coordinates, coordinate.FitsSingle := by
  simp [isFinite_iff, ofPoint, Binary.isFinite_toSingle_iff, Point.coordinates]

theorem Edge.isFinite_ofSegment_iff (segment : Segment) :
    (ofSegment false segment).isFinite = true ↔
      ∀ coordinate ∈ segment.coordinates, coordinate.FitsSingle := by
  rw [Segment.coordinates, List.forall_mem_append]
  simp [isFinite_iff, vertices, ofSegment, Vertex.isFinite_ofPoint_iff]

end Toolpath
