import Toolpath.Proofs.Rounding

/-! What a binary format keeps of integer arithmetic. -/

namespace Toolpath

theorem Format.one_pos (format : Format) : (0 : Int) < format.one :=
  Int.natCast_pos.mpr (Nat.two_pow_pos format.fraction)

theorem Format.exact_whole (format : Format)
    (room : format.precision + format.fraction < format.reach) {count : Nat}
    (bound : count ≤ 2 ^ format.precision) : format.Exact (count * format.one) := by
  refine ⟨format.spacing_dvd_mul count format.fraction bound, ?_⟩
  calc count * format.one ≤ 2 ^ format.precision * 2 ^ format.fraction :=
        Nat.mul_le_mul_right _ bound
    _ = 2 ^ (format.precision + format.fraction) := (Nat.pow_add ..).symm
    _ < format.limit := Nat.pow_lt_pow_right (by decide) room

namespace Binary

variable {format : Format}

theorem ofInt_zero : (ofInt 0 : Binary format) = zero false := by
  have none : format.nearest 0 1 = 0 := format.nearest_eq Nat.one_pos (Nat.dvd_zero _) rfl
  simp [ofInt, round, none, format.limit_pos, zero]

theorem ofInt_eq_finite (room : format.precision + format.fraction < format.reach) {value : Int}
    (bound : value.natAbs ≤ 2 ^ format.precision) :
    ofInt value =
      finite (value < 0) (value.natAbs * format.one) (format.exact_whole room bound) := by
  have exact := format.exact_whole room bound
  have kept : format.nearest (value.natAbs * format.one) 1 = value.natAbs * format.one :=
    format.nearest_eq Nat.one_pos exact.1 (Nat.one_mul _).symm
  simp [ofInt, round, kept, exact.2]

theorem signed_mul (value : Int) (unit : Nat) :
    signed (value < 0) (value.natAbs * unit) = value * unit := by
  rcases Int.lt_or_le value 0 with negative | positive
  · simp only [signed, negative, decide_true, if_true, Nat.cast_mul]
    rw [← Int.neg_mul, ← Int.eq_neg_natAbs_of_nonpos (Int.le_of_lt negative)]
  · simp only [signed, Int.not_lt.mpr positive, decide_false, Bool.false_eq_true, if_false,
      Nat.cast_mul, Int.natAbs_of_nonneg positive]

/-- Finite numbers whose exact sum is whole add up to the number nearest to it. Two negative zeros
are the exception. -/
theorem finite_add_eq_ofInt {negative other : Bool} {steps more : Nat}
    {exact : format.Exact steps} {exactMore : format.Exact more} {value : Int}
    (total : signed negative steps + signed other more = value * format.one)
    (unsigned : value = 0 → (negative && other) = false) :
    finite negative steps exact + finite other more exactMore = ofInt value := by
  change add _ _ = _
  have unit := format.one_pos
  simp only [add, total]
  by_cases zero : value = 0
  · subst value
    rw [if_pos (Int.zero_mul _), unsigned rfl, ofInt_zero]
  · rw [if_neg (Int.mul_ne_zero zero (Int.ne_of_gt unit)), ofInt, Int.natAbs_mul,
      Int.natAbs_natCast]
    have sign : value * format.one < 0 ↔ value < 0 := by
      rw [← Int.not_le, ← Int.not_le, Int.mul_nonneg_iff_of_pos_right unit]
    simp only [sign]

theorem ofInt_add (room : format.precision + format.fraction < format.reach) {left right : Int}
    (leftBound : left.natAbs ≤ 2 ^ format.precision)
    (rightBound : right.natAbs ≤ 2 ^ format.precision) :
    (ofInt left + ofInt right : Binary format) = ofInt (left + right) := by
  rw [ofInt_eq_finite room leftBound, ofInt_eq_finite room rightBound]
  apply finite_add_eq_ofInt
  · rw [signed_mul, signed_mul, Int.add_mul]
  · intro zero
    rw [Bool.and_eq_false_iff, decide_eq_false_iff_not, decide_eq_false_iff_not]
    omega

theorem ofInt_sub (room : format.precision + format.fraction < format.reach) {left right : Int}
    (leftBound : left.natAbs ≤ 2 ^ format.precision)
    (rightBound : right.natAbs ≤ 2 ^ format.precision) :
    (ofInt left - ofInt right : Binary format) = ofInt (left - right) := by
  rw [ofInt_eq_finite room leftBound, ofInt_eq_finite room rightBound]
  apply finite_add_eq_ofInt
  · have turned : signed (!decide (right < 0)) (right.natAbs * format.one) =
        -signed (right < 0) (right.natAbs * format.one) := by
      cases decide (right < 0) <;> simp [signed]
    rw [turned, signed_mul, signed_mul, Int.sub_mul, Int.sub_eq_add_neg]
  · intro zero
    have same : left = right := by omega
    simp [same]

theorem zero_lt_ofInt (room : format.precision + format.fraction < format.reach) {value : Int}
    (bound : value.natAbs ≤ 2 ^ format.precision) :
    (zero false : Binary format).lt (ofInt value) = decide (0 < value) := by
  rw [ofInt_eq_finite room bound, Bool.eq_iff_iff, lt_iff_place rfl rfl, place_zero, place,
    signed_mul, decide_eq_true_iff, mul_pos_iff_of_pos_right format.one_pos]

end Binary

end Toolpath
