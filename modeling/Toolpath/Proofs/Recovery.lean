import Toolpath.Number.Shortest
import Toolpath.Proofs.Nearest

/-! A number is recovered from the decimal it is written by: seventeen digits bring it so near to a
double that no other double is nearer. -/

namespace Toolpath

namespace Format

variable (format : Format) {steps other : Nat}

theorem lt_two_pow_mul_spacing (steps : Nat) :
    steps < 2 ^ format.precision * format.spacing steps := by
  refine Nat.lt_of_lt_of_le Nat.lt_log2_self ?_
  rw [spacing, Nat.pow_eq, ← Nat.pow_add]
  exact Nat.pow_le_pow_right (by decide) (by omega)

theorem spacing_le_sub (exact : format.spacing steps ∣ steps)
    (exactOther : format.spacing other ∣ other) (order : steps < other) :
    format.spacing steps ≤ other - steps := by
  have coarser := Nat.dvd_trans (format.spacing_dvd_spacing order.le) exactOther
  exact Nat.le_of_dvd (by omega) (Nat.dvd_sub coarser exact)

theorem le_two_pow_mul_sub (exact : format.spacing steps ∣ steps)
    (exactOther : format.spacing other ∣ other) (order : other < steps) :
    steps ≤ 2 ^ format.precision * (steps - other) := by
  have wide := format.lt_two_pow_mul_spacing steps
  have reached : 2 ^ steps.log2 ≤ steps := Nat.log2_self_le (by omega)
  by_cases below : other < 2 ^ steps.log2
  · rcases Nat.eq_or_lt_of_le reached with power | above
    · have apart := format.two_pow_le_sub exactOther exact order
      calc steps = 2 ^ steps.log2 := power.symm
        _ ≤ 2 ^ (format.precision + (steps.log2 - format.precision)) :=
          Nat.pow_le_pow_right (by decide) (by omega)
        _ = 2 ^ format.precision * 2 ^ (steps.log2 - format.precision) := Nat.pow_add ..
        _ ≤ 2 ^ format.precision * (steps - other) := Nat.mul_le_mul_left _ apart
    · have apart := format.spacing_le_sub (format.spacing_dvd_two_pow steps.log2) exact above
      have same : format.spacing (2 ^ steps.log2) = format.spacing steps := by
        rw [spacing, spacing, Nat.log2_two_pow]
      rw [same] at apart
      have scaled := Nat.mul_le_mul_left (2 ^ format.precision)
        (show format.spacing steps ≤ steps - other by omega)
      omega
  · have logs : other.log2 = steps.log2 := by
      have positive := Nat.two_pow_pos steps.log2
      refine Nat.le_antisymm (log2_le_log2 order.le) ?_
      rw [Nat.le_log2 (by omega)]
      exact Nat.le_of_not_lt below
    have apart := format.spacing_le_sub exactOther exact order
    have same : format.spacing other = format.spacing steps := by rw [spacing, spacing, logs]
    rw [same] at apart
    have scaled := Nat.mul_le_mul_left (2 ^ format.precision) apart
    omega

theorem magnitude_le_two_pow_mul_abs (exact : format.Exact steps) (exactOther : format.Exact other)
    (apart : other ≠ steps) : format.magnitude steps ≤
      2 ^ format.precision * |format.magnitude steps - format.magnitude other| := by
  have one := format.one_pos_rat
  have gap : (steps : ℚ) ≤ 2 ^ format.precision * |(steps : ℚ) - other| := by
    rcases Nat.lt_or_gt_of_ne apart with below | above
    · have least := format.le_two_pow_mul_sub exact.1 exactOther.1 below
      have order : (other : ℚ) ≤ steps := by exact_mod_cast below.le
      rw [abs_of_nonneg (sub_nonneg.mpr order), ← Nat.cast_sub below.le]
      exact_mod_cast least
    · have least := format.spacing_le_sub exact.1 exactOther.1 above
      have wide := format.lt_two_pow_mul_spacing steps
      have order : (steps : ℚ) ≤ other := by exact_mod_cast above.le
      have scaled := Nat.mul_le_mul_left (2 ^ format.precision) least
      rw [abs_sub_comm, abs_of_nonneg (sub_nonneg.mpr order), ← Nat.cast_sub above.le]
      exact_mod_cast (wide.trans_le scaled).le
  rw [magnitude, magnitude, ← sub_div, abs_div, abs_of_pos one, ← mul_div_assoc]
  exact (div_le_div_iff_of_pos_right one).mpr gap

/-- Holds of a magnitude so near to that of a count that the gap to any other count is more than
twice as wide. -/
def Near (magnitude : ℚ) (steps : Nat) : Prop :=
  2 ^ (format.precision + 1) * |magnitude - format.magnitude steps| < format.magnitude steps

variable {format} {magnitude : ℚ}

theorem Near.closest (near : format.Near magnitude steps) (exact : format.Exact steps) :
    format.Closest magnitude steps := by
  have farther (other : Nat) (exactOther : format.Exact other) (apart : other ≠ steps) :
      |magnitude - format.magnitude steps| < |magnitude - format.magnitude other| := by
    have gap := format.magnitude_le_two_pow_mul_abs exact exactOther apart
    have triangle := abs_sub_le (format.magnitude steps) magnitude (format.magnitude other)
    rw [abs_sub_comm (format.magnitude steps) magnitude] at triangle
    have positive : (0 : ℚ) < 2 ^ format.precision := by positivity
    rw [Near, pow_succ, mul_assoc] at near
    have twice := lt_of_mul_lt_mul_left (near.trans_le gap) positive.le
    linarith
  refine ⟨exact, fun other exactOther => ?_, fun other exactOther apart tie => ?_⟩
  · by_cases apart : other = steps
    · rw [apart]
    · exact (farther other exactOther apart).le
  · exact absurd tie (farther other exactOther apart).ne

theorem Near.lt_overflow (near : format.Near magnitude steps) (exact : format.Exact steps)
    (roomy : format.precision ≤ format.reach) : magnitude < format.overflow := by
  have one := format.one_pos_rat
  have limit : (format.limit : ℚ) = 2 ^ format.precision * format.widestSpacing := by
    rw [Format.limit, widestSpacing, Nat.pow_eq]
    push_cast
    rw [← pow_add, Nat.add_sub_cancel' roomy]
  have room : (format.limit : ℚ) ≤ 2 ^ format.precision * (format.limit - steps) := by
    have least := format.le_two_pow_mul_sub (format.spacing_dvd_two_pow format.reach) exact.1
      exact.2
    rw [← Nat.cast_sub exact.2.le]
    exact_mod_cast least
  have positive : (0 : ℚ) < 2 ^ format.precision := by positivity
  rw [limit, mul_le_mul_iff_right₀ positive] at room
  have below : (steps : ℚ) < format.limit := by exact_mod_cast exact.2
  have excess := le_abs_self (magnitude - format.magnitude steps)
  rw [Near, pow_succ, mul_assoc, ← lt_div_iff₀' positive] at near
  have share : format.magnitude steps / 2 ^ format.precision <
      format.widestSpacing / format.one := by
    rw [Format.magnitude, div_div, mul_comm, ← div_div, div_lt_div_iff_of_pos_right one,
      div_lt_iff₀' positive, ← limit]
    exact below
  have scaled : magnitude < (steps + format.widestSpacing / 2) / format.one := by
    rw [add_div, div_right_comm, ← Format.magnitude]
    linarith
  refine scaled.trans_le ?_
  rw [overflow, div_le_div_iff_of_pos_right one]
  linarith

end Format

theorem Binary.ofDecimal_of_near {format : Format} (fine : 1 < format.precision)
    (roomy : format.precision ≤ format.reach) {steps : Nat} (exact : format.Exact steps)
    {decimal : Decimal} (near : format.Near decimal.magnitude steps) :
    (ofDecimal decimal : Binary format) = finite decimal.negative steps exact :=
  (rounds_ofDecimal fine roomy decimal).unique
    (.within (near.lt_overflow exact roomy) (near.closest exact))

theorem abs_halfEven_sub_le (numerator : Nat) {denominator : Nat} (positive : 0 < denominator) :
    |(halfEven numerator denominator : ℚ) - numerator / denominator| ≤ 1 / 2 := by
  have nonzero : (0 : ℚ) < denominator := by exact_mod_cast positive
  obtain ⟨above, below⟩ := halfEven_distance numerator denominator positive
  have aboveRat : (2 * (halfEven numerator denominator * denominator) : ℚ) ≤
      2 * numerator + denominator := by exact_mod_cast above
  have belowRat : (2 * numerator : ℚ) ≤
      2 * (halfEven numerator denominator * denominator) + denominator := by exact_mod_cast below
  rw [sub_div' nonzero.ne', abs_div, abs_of_pos nonzero, div_le_iff₀ nonzero, abs_le]
  constructor <;> linarith

theorem Decimal.ten_pow_order_le {numerator denominator : Nat} (positive : 0 < numerator)
    (nonzero : 0 < denominator) :
    (10 : ℚ) ^ order numerator denominator ≤ numerator / denominator := by
  have width_pos (value : Nat) : 0 < width value := Nat.length_toDigits_pos
  have below : (0 : ℚ) < denominator := by exact_mod_cast nonzero
  unfold order
  split
  · rename_i whole
    have quotient : 1 ≤ numerator / denominator := (Nat.one_le_div_iff nonzero).mpr whole
    obtain ⟨places, same⟩ : ∃ places, width (numerator / denominator) = places + 1 :=
      ⟨_, (Nat.succ_pred_eq_of_pos (width_pos _)).symm⟩
    have least : 10 ^ places ≤ numerator / denominator := by
      rcases Nat.eq_zero_or_pos places with none | some
      · simpa [none] using quotient
      · rw [← not_lt, ← Nat.length_toDigits_le_iff (by decide) some]
        rw [width] at same
        omega
    rw [Nat.le_div_iff_mul_le nonzero] at least
    rw [same, Nat.cast_add, Nat.cast_one, add_sub_cancel_right, zpow_natCast, le_div_iff₀ below]
    exact_mod_cast least
  · have most : (denominator - 1) / numerator < 10 ^ width ((denominator - 1) / numerator) :=
      (Nat.length_toDigits_le_iff (by decide) (width_pos _)).mp le_rfl
    rw [Nat.div_lt_iff_lt_mul positive] at most
    have scaled : denominator ≤ 10 ^ width ((denominator - 1) / numerator) * numerator := by omega
    rw [zpow_neg, zpow_natCast, le_div_iff₀ below, inv_mul_le_iff₀ (by positivity)]
    exact_mod_cast scaled

namespace Shortest

variable {format : Format} {steps : Nat}

theorem ofDecimal_of_onGrid? {count : Nat} {target : Binary format} {decimal : Decimal}
    (found : onGrid? steps count target = some decimal) : Binary.ofDecimal decimal = target := by
  obtain ⟨digits, -, tried⟩ := List.exists_of_findSome?_eq_some found
  dsimp only at tried
  split at tried
  · rename_i reads
    exact Option.some.inj tried ▸ reads
  · contradiction

theorem near_of_digits (nonzero : steps ≠ 0) {count : Nat}
    (plenty : 2 ^ format.precision < 10 ^ count) :
    let unit := Decimal.order steps format.one - count
    let scaled := Decimal.scale steps format.one (-unit)
    format.Near (Decimal.magnitude ⟨false, halfEven scaled.1 scaled.2, unit⟩) steps := by
  intro unit scaled
  have one : 0 < format.one := Nat.two_pow_pos _
  have positive := Decimal.scale_pos steps one (-unit)
  have leading := Decimal.ten_pow_order_le (Nat.pos_of_ne_zero nonzero) one
  have rounded := abs_halfEven_sub_le scaled.1 positive
  rw [Decimal.scale_rat, ← Format.magnitude] at rounded
  have ten : (0 : ℚ) < 10 ^ unit := zpow_pos (by decide) unit
  have cancelled : format.magnitude steps * 10 ^ (-unit) * 10 ^ unit = format.magnitude steps := by
    rw [mul_assoc, ← zpow_add₀ (by decide), neg_add_cancel, zpow_zero, mul_one]
  have distance : |Decimal.magnitude ⟨false, halfEven scaled.1 scaled.2, unit⟩ -
      format.magnitude steps| ≤ 10 ^ unit / 2 := by
    rw [Decimal.magnitude, ← cancelled, ← sub_mul, abs_mul, abs_of_pos ten]
    have grown := mul_le_mul_of_nonneg_right rounded ten.le
    linarith
  have room : (2 : ℚ) ^ format.precision < 10 ^ count := by exact_mod_cast plenty
  calc 2 ^ (format.precision + 1) * |Decimal.magnitude ⟨false, halfEven scaled.1 scaled.2, unit⟩ -
        format.magnitude steps|
      ≤ 2 ^ (format.precision + 1) * (10 ^ unit / 2) :=
        mul_le_mul_of_nonneg_left distance (by positivity)
    _ = 2 ^ format.precision * 10 ^ unit := by ring
    _ < 10 ^ count * 10 ^ unit := mul_lt_mul_of_pos_right room ten
    _ = 10 ^ Decimal.order steps format.one := by
        rw [← zpow_natCast, ← zpow_add₀ (by decide), add_sub_cancel]
    _ ≤ format.magnitude steps := leading

theorem ofDecimal_digits (fine : 1 < format.precision) (roomy : format.precision ≤ format.reach)
    (plenty : 2 ^ format.precision < 10 ^ 16) (nonzero : steps ≠ 0) (exact : format.Exact steps) :
    (Binary.ofDecimal (digits steps (Binary.finite false steps exact)) : Binary format) =
      .finite false steps exact := by
  have near := near_of_digits nonzero plenty
  have reads := Binary.ofDecimal_of_near fine roomy exact near
  have last : (onGrid? steps (16 + 1) (Binary.finite false steps exact)).isSome = true := by
    have unit : Decimal.order steps format.one + 1 - ((16 + 1 : Nat) : Int) =
        Decimal.order steps format.one - (16 : Nat) := by omega
    simp only [onGrid?, unit, List.findSome?_cons]
    rw [if_pos reads]
    rfl
  have some : ((List.range enough).findSome? fun index =>
      onGrid? steps (index + 1) (Binary.finite false steps exact)).isSome = true :=
    List.findSome?_isSome_iff.mpr ⟨16, by decide, last⟩
  obtain ⟨decimal, found⟩ := Option.isSome_iff_exists.mp some
  obtain ⟨index, -, hit⟩ := List.exists_of_findSome?_eq_some found
  rw [digits, found]
  exact ofDecimal_of_onGrid? hit

end Shortest

end Toolpath
