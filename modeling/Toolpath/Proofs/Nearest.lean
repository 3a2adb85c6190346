import Toolpath.Number.Decimal
import Toolpath.Proofs.Margins
import Toolpath.Proofs.Overflow

/-! Which binary number a magnitude is rounded to, said without the algorithm (`Binary.Rounds`).
Rounding a quotient and reading a decimal both do that. -/

namespace Toolpath

theorem halfEven_mod_two_of_tie {numerator denominator : Nat} (positive : 0 < denominator)
    (tie : (denominator : Int) ≤
      2 * |(numerator : Int) - denominator * halfEven numerator denominator|) :
    halfEven numerator denominator % 2 = 0 := by
  have parts := Nat.div_add_mod numerator denominator
  have rest := Nat.mod_lt numerator positive
  unfold halfEven at tie ⊢
  generalize numerator % denominator = remainder at parts rest tie ⊢
  generalize numerator / denominator = floor at parts tie ⊢
  have offset (count : Nat) : (numerator : Int) - denominator * count =
      denominator * ((floor : Int) - count) + remainder := by
    rw [← parts]
    push_cast
    ring
  rw [offset] at tie
  dsimp only at tie ⊢
  split
  · rename_i low
    rw [if_pos low, sub_self, mul_zero, zero_add, abs_of_nonneg (by omega)] at tie
    omega
  · rename_i high
    split
    · rename_i up
      have next : (denominator : Int) * ((floor : Int) - (floor + 1 : Nat)) + remainder =
          remainder - denominator := by
        push_cast
        ring
      rw [if_neg high, if_pos up, next, abs_of_nonpos (by omega)] at tie
      omega
    · omega

namespace Format

variable (format : Format) {numerator denominator other : Nat}

/-- Holds of the counts of steps whose last significant bit is zero. -/
def IsEven (steps : Nat) : Prop := 2 * format.spacing steps ∣ steps

def gap (numerator denominator steps : Nat) : Int := |(numerator : Int) - denominator * steps|

theorem exists_grid_as_near (numerator : Nat) (positive : 0 < denominator)
    (exact : format.spacing other ∣ other) :
    ∃ point, format.spacing (numerator / denominator) ∣ point ∧
      (point = other ∨ gap numerator denominator point < gap numerator denominator other) := by
  rcases Nat.le_total other (numerator / denominator) with below | above
  · obtain ⟨point, grid, least, most⟩ := format.exists_grid_between exact below
    refine ⟨point, grid, (Nat.eq_or_lt_of_le least).imp Eq.symm fun less => ?_⟩
    rw [Nat.le_div_iff_mul_le positive, Nat.mul_comm] at most
    have scaled : denominator * other < denominator * point :=
      Nat.mul_lt_mul_of_pos_left less positive
    rw [gap, gap, abs_of_nonneg (by omega), abs_of_nonneg (by omega)]
    omega
  · exact ⟨other, Nat.dvd_trans (format.spacing_dvd_spacing above) exact, .inl rfl⟩

theorem two_gap_nearest_le (numerator : Nat) (positive : 0 < denominator) :
    2 * gap numerator denominator (format.nearest numerator denominator) ≤
      (denominator * format.spacing (numerator / denominator) : Nat) := by
  have cell := Nat.mul_pos positive (format.spacing_pos (numerator / denominator))
  have distance := halfEven_distance numerator _ cell
  rw [Nat.mul_left_comm, Nat.mul_comm (halfEven _ _)] at distance
  rw [gap, nearest, ← abs_two, ← abs_mul, abs_le]
  zify at distance ⊢
  constructor <;> linarith

theorem le_two_gap_of_grid (positive : 0 < denominator) {point : Nat}
    (grid : format.spacing (numerator / denominator) ∣ point)
    (apart : point ≠ format.nearest numerator denominator) :
    (denominator * format.spacing (numerator / denominator) : Nat) ≤
      2 * gap numerator denominator point := by
  have near := format.two_gap_nearest_le numerator positive
  have rounded : format.spacing (numerator / denominator) ∣ format.nearest numerator denominator :=
    Nat.dvd_mul_left _ _
  generalize format.nearest numerator denominator = target at apart near rounded
  have cells : ((denominator * format.spacing (numerator / denominator) : Nat) : Int) ∣
      (numerator - denominator * point) - (numerator - denominator * target) := by
    obtain ⟨count, rfl⟩ := grid
    obtain ⟨other, rfl⟩ := rounded
    exact ⟨other - count, by push_cast; ring⟩
  have distinct :
      (numerator - denominator * point : Int) - (numerator - denominator * target) ≠ 0 := by
    intro same
    have scaled : (denominator * point : Int) = denominator * target := by linarith
    exact apart (Nat.eq_of_mul_eq_mul_left positive (by exact_mod_cast scaled))
  have least := Int.le_of_dvd (abs_pos.mpr distinct) ((dvd_abs _ _).mpr cells)
  have triangle :=
    abs_sub (numerator - denominator * point : Int) (numerator - denominator * target)
  rw [gap] at near ⊢
  linarith

theorem gap_nearest_le (positive : 0 < denominator) (exact : format.spacing other ∣ other) :
    gap numerator denominator (format.nearest numerator denominator) ≤
      gap numerator denominator other := by
  obtain ⟨point, grid, nearer⟩ := format.exists_grid_as_near numerator positive exact
  have asNear : gap numerator denominator point ≤ gap numerator denominator other :=
    nearer.elim (fun same => same ▸ le_refl _) le_of_lt
  by_cases same : point = format.nearest numerator denominator
  · exact same ▸ asNear
  · have near := format.two_gap_nearest_le numerator positive
    have far := format.le_two_gap_of_grid positive grid same
    linarith

theorem isEven_of_halfEven (fine : 1 < format.precision)
    (even : halfEven numerator (denominator * format.spacing (numerator / denominator)) % 2 = 0) :
    format.IsEven (format.nearest numerator denominator) := by
  have bound := format.nearest_quotient_le numerator denominator
  obtain ⟨exponent, unit⟩ : ∃ exponent, format.spacing (numerator / denominator) = 2 ^ exponent :=
    ⟨_, rfl⟩
  rw [nearest, IsEven]
  rw [unit] at even bound ⊢
  generalize halfEven numerator (denominator * 2 ^ exponent) = count at even bound ⊢
  rw [Nat.pow_eq] at bound
  rcases Nat.eq_or_lt_of_le bound with full | below
  · -- The next binade begins here, and its spacing is twice as wide.
    rw [full, ← Nat.pow_add, spacing, Nat.log2_two_pow, Nat.pow_eq, ← Nat.pow_succ']
    exact Nat.pow_dvd_pow 2 (by omega)
  · have size : (count * 2 ^ exponent).log2 < format.precision + exponent := by
      apply log2_lt_of_lt (by omega)
      rw [Nat.pow_add]
      exact Nat.mul_lt_mul_of_pos_right below (Nat.two_pow_pos exponent)
    have finer : format.spacing (count * 2 ^ exponent) ∣ 2 ^ exponent :=
      Nat.pow_dvd_pow 2 (by omega)
    exact Nat.mul_dvd_mul (Nat.dvd_of_mod_eq_zero even) finer

theorem isEven_nearest (fine : 1 < format.precision) (positive : 0 < denominator)
    (exact : format.spacing other ∣ other) (apart : other ≠ format.nearest numerator denominator)
    (tie : gap numerator denominator (format.nearest numerator denominator) =
      gap numerator denominator other) :
    format.IsEven (format.nearest numerator denominator) := by
  obtain ⟨point, grid, nearer⟩ := format.exists_grid_as_near numerator positive exact
  have asNear : gap numerator denominator point ≤ gap numerator denominator other :=
    nearer.elim (fun same => same ▸ le_refl _) le_of_lt
  have elsewhere : point ≠ format.nearest numerator denominator := by
    rintro rfl
    rcases nearer with same | less
    · exact apart same.symm
    · exact absurd tie (ne_of_lt less)
  have far := format.le_two_gap_of_grid positive grid elsewhere
  have cell := Nat.mul_pos positive (format.spacing_pos (numerator / denominator))
  apply format.isEven_of_halfEven fine
  apply halfEven_mod_two_of_tie cell
  have regrouped :
      (numerator : Int) - (denominator * format.spacing (numerator / denominator) : Nat) *
        halfEven numerator (denominator * format.spacing (numerator / denominator)) =
      numerator - denominator * format.nearest numerator denominator := by
    rw [nearest]
    push_cast
    ring
  rw [regrouped]
  rw [gap] at tie
  linarith

theorem nearest_of_small (small : 2 * numerator < denominator) :
    format.nearest numerator denominator = 0 := by
  have precision := format.precision_pos
  have floor : numerator / denominator = 0 := Nat.div_eq_of_lt (by omega)
  have rest : numerator % denominator = numerator := Nat.mod_eq_of_lt (by omega)
  have unit : format.spacing 0 = 1 := by
    rw [spacing, Nat.log2_zero, show 0 + 1 - format.precision = 0 by omega]
  rw [nearest, floor, unit, Nat.mul_one, Nat.mul_one, halfEven, floor, rest, if_pos small]

theorem exists_exact_between {less more : Nat} (evenLess : format.IsEven less)
    (evenMore : format.IsEven more) (order : less < more) (below : more < format.limit) :
    ∃ between, format.Exact between ∧ less < between ∧ between < more := by
  have unit : format.spacing less = 2 ^ (less.log2 + 1 - format.precision) := rfl
  have size : less < 2 ^ (format.precision + (less.log2 + 1 - format.precision)) :=
    Nat.lt_of_lt_of_le Nat.lt_log2_self (Nat.pow_le_pow_right (by decide) (by omega))
  have wide : 2 * format.spacing less ∣ more :=
    Nat.dvd_trans (Nat.mul_dvd_mul_left 2 (format.spacing_dvd_spacing order.le)) evenMore
  rw [IsEven] at evenLess
  rw [unit] at evenLess wide
  generalize less.log2 + 1 - format.precision = exponent at size evenLess wide
  have apart : 2 * 2 ^ exponent ≤ more - less :=
    Nat.le_of_dvd (by omega) (Nat.dvd_sub wide evenLess)
  have positive := Nat.two_pow_pos exponent
  obtain ⟨half, halved⟩ := evenLess
  have next : less + 2 ^ exponent = (2 * half + 1) * 2 ^ exponent := by
    rw [halved]
    ring
  have count : 2 * half < 2 ^ format.precision := by
    rw [halved, Nat.pow_add, Nat.mul_right_comm] at size
    exact Nat.lt_of_mul_lt_mul_right size
  refine ⟨less + 2 ^ exponent, ⟨?_, by omega⟩, by omega, by omega⟩
  rw [next]
  exact format.spacing_dvd_mul _ _ count

def magnitude (steps : Nat) : ℚ := steps / format.one

/-- Holds of the count of the format that lies nearest to a magnitude, and of the even one if two
lie as near. -/
structure Closest (magnitude : ℚ) (steps : Nat) : Prop where
  exact : format.Exact steps
  nearest : ∀ other, format.Exact other →
    |magnitude - format.magnitude steps| ≤ |magnitude - format.magnitude other|
  even : ∀ other, format.Exact other → other ≠ steps →
    |magnitude - format.magnitude steps| = |magnitude - format.magnitude other| →
    format.IsEven steps

/-- The least magnitude that is rounded to infinity: the middle between the greatest finite number
and the reach. -/
def overflow : ℚ := (format.limit - format.widestSpacing / 2) / format.one

theorem one_pos_rat : (0 : ℚ) < format.one := by exact_mod_cast format.one_pos

theorem abs_sub_magnitude (positive : 0 < denominator) (steps : Nat) :
    |(numerator / (denominator * format.one) : ℚ) - format.magnitude steps| =
      gap numerator denominator steps / (denominator * format.one) := by
  have one := format.one_pos_rat
  have nonzero : (0 : ℚ) < denominator := by exact_mod_cast positive
  rw [gap, magnitude, Int.cast_abs, ← abs_of_pos (mul_pos nonzero one), ← abs_div,
    abs_of_pos (mul_pos nonzero one)]
  congr 1
  push_cast
  rw [sub_div, mul_div_mul_left _ _ nonzero.ne']

theorem lt_overflow_iff (positive : 0 < denominator) (roomy : format.precision ≤ format.reach) :
    (numerator / (denominator * format.one) : ℚ) < format.overflow ↔
      format.nearest numerator denominator < format.limit := by
  have one := format.one_pos_rat
  have nonzero : (0 : ℚ) < denominator := by exact_mod_cast positive
  rw [format.nearest_lt_limit_iff positive roomy, overflow, ← div_div,
    div_lt_div_iff_of_pos_right one, div_lt_iff₀ nonzero, ← @Nat.cast_lt ℚ]
  push_cast
  constructor <;> intro _ <;> linarith

variable {format} in
theorem Closest.le {magnitude : ℚ} {steps other : Nat} (closest : format.Closest magnitude steps)
    (closestOther : format.Closest magnitude other) : other ≤ steps := by
  by_contra order
  have less := Nat.lt_of_not_le order
  have tie := le_antisymm (closest.nearest other closestOther.exact)
    (closestOther.nearest steps closest.exact)
  obtain ⟨between, exact, above, below⟩ := format.exists_exact_between
    (closest.even other closestOther.exact less.ne' tie)
    (closestOther.even steps closest.exact less.ne tie.symm) less closestOther.exact.2
  have ordered {few many : Nat} (fewer : few < many) :
      format.magnitude few < format.magnitude many :=
    (div_lt_div_iff_of_pos_right format.one_pos_rat).mpr (by exact_mod_cast fewer)
  have nearest := closest.nearest between exact
  have left := ordered above
  have right := ordered below
  rcases abs_eq_abs.mp tie with same | opposite
  · linarith
  · have radius : |magnitude - format.magnitude steps| =
        magnitude - format.magnitude steps := abs_of_nonneg (by linarith)
    have nearer : |magnitude - format.magnitude between| <
        magnitude - format.magnitude steps := abs_lt.mpr ⟨by linarith, by linarith⟩
    linarith

theorem closest_nearest (fine : 1 < format.precision) (positive : 0 < denominator)
    (bound : format.nearest numerator denominator < format.limit) :
    format.Closest (numerator / (denominator * format.one))
      (format.nearest numerator denominator) := by
  have scale : (0 : ℚ) < denominator * format.one :=
    mul_pos (by exact_mod_cast positive) format.one_pos_rat
  refine ⟨format.nearest_exact numerator denominator bound, fun other exact => ?_,
    fun other exact apart tie => ?_⟩
  · rw [format.abs_sub_magnitude positive, format.abs_sub_magnitude positive,
      div_le_div_iff_of_pos_right scale]
    exact_mod_cast format.gap_nearest_le positive exact.1
  · rw [format.abs_sub_magnitude positive, format.abs_sub_magnitude positive,
      div_left_inj' scale.ne'] at tie
    exact format.isEven_nearest fine positive exact.1 apart (by exact_mod_cast tie)

end Format

namespace Decimal

def magnitude (decimal : Decimal) : ℚ := decimal.digits * 10 ^ decimal.exponent

theorem scale_pos (numerator : Nat) {denominator : Nat} (positive : 0 < denominator) (power : Int) :
    0 < (scale numerator denominator power).2 := by
  cases power with
  | ofNat exponent => exact positive
  | negSucc exponent => exact Nat.mul_pos positive (Nat.pow_pos (by decide))

theorem scale_rat (numerator denominator : Nat) (power : Int) :
    ((scale numerator denominator power).1 / (scale numerator denominator power).2 : ℚ) =
      numerator / denominator * 10 ^ power := by
  cases power with
  | ofNat exponent =>
      rw [scale, Int.ofNat_eq_natCast, zpow_natCast, Nat.pow_eq]
      push_cast
      ring
  | negSucc exponent =>
      rw [scale, zpow_negSucc, Nat.pow_eq]
      push_cast
      ring

end Decimal

namespace Binary

variable {format : Format}

/-- Holds of the number of a format to which a sign and a magnitude are rounded: the closest one,
and past the finite numbers the infinity. -/
inductive Rounds (negative : Bool) : WithTop ℚ → Binary format → Prop
  | beyond {magnitude : WithTop ℚ} (large : (format.overflow : WithTop ℚ) ≤ magnitude) :
      Rounds negative magnitude (infinite negative)
  | within {magnitude : ℚ} {steps : Nat} (small : magnitude < format.overflow)
      (closest : format.Closest magnitude steps) :
      Rounds negative magnitude (finite negative steps closest.exact)

theorem Rounds.unique {negative : Bool} {magnitude : WithTop ℚ} {left right : Binary format}
    (roundsLeft : Rounds negative magnitude left) (roundsRight : Rounds negative magnitude right) :
    left = right := by
  cases roundsLeft with
  | beyond large =>
      cases roundsRight with
      | beyond => rfl
      | within small => exact absurd (WithTop.coe_le_coe.mp large) (not_le.mpr small)
  | within small closest =>
      cases roundsRight with
      | beyond large => exact absurd (WithTop.coe_le_coe.mp large) (not_le.mpr small)
      | within _ other =>
          have same := Nat.le_antisymm (other.le closest) (closest.le other)
          subst same
          rfl

theorem rounds_round (fine : 1 < format.precision) (roomy : format.precision ≤ format.reach)
    (negative : Bool) (numerator : Nat) {denominator : Nat} (positive : 0 < denominator) :
    Rounds negative ((numerator / (denominator * format.one) : ℚ) : WithTop ℚ)
      (round negative numerator denominator : Binary format) := by
  unfold round
  split
  · rename_i bound
    exact .within ((format.lt_overflow_iff positive roomy).mpr bound)
      (format.closest_nearest fine positive bound)
  · rename_i bound
    refine .beyond (WithTop.coe_le_coe.mpr ?_)
    rw [← not_lt, format.lt_overflow_iff positive roomy]
    exact bound

/-- Holds of a number and what becomes of it in another format: it is rounded if it is finite, and
otherwise stays infinite with its sign, or undefined. -/
inductive ConvertsTo {target : Format} : Binary format → Binary target → Prop
  | nan : ConvertsTo nan nan
  | infinite (negative : Bool) : ConvertsTo (infinite negative) (infinite negative)
  | finite {negative : Bool} {steps : Nat} {exact : format.Exact steps} {converted : Binary target}
      (rounds : Rounds negative (format.magnitude steps : WithTop ℚ) converted) :
      ConvertsTo (finite negative steps exact) converted

theorem convertsTo_toFormat {target : Format} (fine : 1 < target.precision)
    (roomy : target.precision ≤ target.reach) (number : Binary format) :
    number.ConvertsTo (number.toFormat target) := by
  cases number with
  | nan => exact .nan
  | infinite negative => exact .infinite negative
  | finite negative steps exact =>
      have unit : 0 < format.one := Nat.two_pow_pos _
      have quotient : ((steps * target.one : Nat) / (format.one * target.one) : ℚ) =
          format.magnitude steps := by
        push_cast
        exact mul_div_mul_right _ _ target.one_pos_rat.ne'
      have rounded := rounds_round fine roomy negative (steps * target.one) unit
      rw [quotient] at rounded
      exact .finite rounded

theorem round_of_zero (negative : Bool) {numerator denominator : Nat}
    (rounded : format.nearest numerator denominator = 0) :
    (round negative numerator denominator : Binary format) = zero negative := by
  have bound : format.nearest numerator denominator < format.limit := rounded ▸ format.limit_pos
  rw [round, dif_pos bound]
  simp only [rounded, zero]

theorem round_of_limit_le (negative : Bool) {numerator denominator : Nat}
    (reached : format.limit ≤ format.nearest numerator denominator) :
    (round negative numerator denominator : Binary format) = infinite negative :=
  dif_neg (Nat.not_lt.mpr reached)

/-- The shortcuts of reading a decimal give what rounding its exact quotient gives. -/
theorem ofDecimal_eq_round (decimal : Decimal) :
    (ofDecimal decimal : Binary format) =
      let exact := Decimal.scale (decimal.digits * format.one) 1 decimal.exponent
      round decimal.negative exact.1 exact.2 := by
  obtain ⟨negative, digits, exponent⟩ := decimal
  have unit : 0 < format.one := Nat.two_pow_pos _
  unfold ofDecimal
  dsimp only
  split
  · rename_i none
    subst none
    have positive := Decimal.scale_pos 0 Nat.one_pos exponent
    have empty : (Decimal.scale 0 1 exponent).1 = 0 := by
      cases exponent <;> simp [Decimal.scale]
    rw [Nat.zero_mul, empty, round_of_zero]
    exact format.nearest_eq positive (Nat.dvd_zero _) rfl
  · rename_i some
    split
    · rename_i large
      obtain ⟨power, rfl⟩ := Int.eq_ofNat_of_zero_le (by omega : 0 ≤ exponent)
      refine (round_of_limit_le negative ?_).symm
      refine format.le_nearest Nat.one_pos (format.spacing_dvd_two_pow format.reach) ?_
      calc 1 * 2 ^ format.reach = 2 ^ format.reach := Nat.one_mul _
        _ ≤ 2 ^ power := Nat.pow_le_pow_right (by decide) (by omega)
        _ ≤ 10 ^ power := Nat.pow_le_pow_left (by decide) power
        _ ≤ digits * format.one * 10 ^ power :=
          Nat.le_mul_of_pos_left _ (Nat.mul_pos (by omega) unit)
    · split
      · rename_i tiny
        obtain ⟨power, rfl⟩ : ∃ power, exponent = Int.negSucc power :=
          Int.eq_negSucc_of_lt_zero (by omega)
        refine (round_of_zero negative (format.nearest_of_small ?_)).symm
        calc 2 * (digits * format.one) = digits * 2 ^ (format.fraction + 1) := by
              rw [Format.one, Nat.pow_eq, Nat.pow_succ]
              ring
          _ < 2 ^ (digits.log2 + 1) * 2 ^ (format.fraction + 1) :=
            Nat.mul_lt_mul_of_pos_right Nat.lt_log2_self (Nat.two_pow_pos _)
          _ = 2 ^ (digits.log2 + 1 + (format.fraction + 1)) := (Nat.pow_add ..).symm
          _ ≤ 2 ^ (power + 1) := Nat.pow_le_pow_right (by decide) (by omega)
          _ ≤ 10 ^ (power + 1) := Nat.pow_le_pow_left (by decide) _
          _ = 1 * 10 ^ (power + 1) := (Nat.one_mul _).symm
      · rfl

theorem rounds_ofDecimal (fine : 1 < format.precision) (roomy : format.precision ≤ format.reach)
    (decimal : Decimal) :
    Rounds decimal.negative (decimal.magnitude : WithTop ℚ)
      (ofDecimal decimal : Binary format) := by
  have one := format.one_pos_rat
  have rounded := rounds_round fine roomy decimal.negative
    (Decimal.scale (decimal.digits * format.one) 1 decimal.exponent).1
    (Decimal.scale_pos (decimal.digits * format.one) Nat.one_pos decimal.exponent)
  have quotient : decimal.magnitude = (decimal.digits * format.one : Nat) / (1 : Nat) *
      10 ^ decimal.exponent / format.one := by
    rw [Decimal.magnitude]
    push_cast
    rw [div_one, mul_right_comm, mul_div_cancel_right₀ _ one.ne']
  rw [← div_div, Decimal.scale_rat, ← quotient] at rounded
  rwa [ofDecimal_eq_round]

end Binary

end Toolpath
