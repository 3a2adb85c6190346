import Mathlib.Tactic.Linarith
import Mathlib.Tactic.Ring
import Toolpath.Number.Binary

/-! Where the nearest number of a format lies. Its counts bound the rounding of everything on either
side (`Format.nearest_le`, `Format.le_nearest`), half a spacing away at the most. -/

namespace Toolpath

theorem div_le_halfEven (numerator denominator : Nat) :
    numerator / denominator ≤ halfEven numerator denominator := by
  unfold halfEven
  dsimp only
  split
  · exact Nat.le_refl _
  · split <;> omega

theorem halfEven_le (numerator denominator bound : Nat)
    (within : numerator ≤ denominator * bound) : halfEven numerator denominator ≤ bound := by
  have floor : numerator / denominator ≤ bound := Nat.div_le_of_le_mul within
  rcases Nat.lt_or_eq_of_le floor with below | full
  · exact Nat.le_trans (halfEven_le_succ numerator denominator) below
  · have whole : numerator % denominator = 0 := by
      have parts := Nat.div_add_mod numerator denominator
      rw [full] at parts
      omega
    unfold halfEven
    simp only [whole, full, Nat.mul_zero]
    split
    · exact Nat.le_refl _
    · have zero : denominator = 0 := by omega
      simp only [zero, Nat.div_zero] at full
      simp [← full]

theorem le_halfEven (numerator denominator bound : Nat) (positive : 0 < denominator)
    (within : denominator * bound ≤ numerator) : bound ≤ halfEven numerator denominator := by
  refine Nat.le_trans ?_ (div_le_halfEven numerator denominator)
  rwa [Nat.le_div_iff_mul_le positive, Nat.mul_comm]

theorem halfEven_distance (numerator denominator : Nat) (positive : 0 < denominator) :
    2 * (halfEven numerator denominator * denominator) ≤ 2 * numerator + denominator ∧
      2 * numerator ≤ 2 * (halfEven numerator denominator * denominator) + denominator := by
  have parts := Nat.div_add_mod numerator denominator
  have rest := Nat.mod_lt numerator positive
  unfold halfEven
  rw [Nat.mul_comm] at parts
  generalize numerator % denominator = remainder at parts rest ⊢
  generalize numerator / denominator = floor at parts ⊢
  have next : (floor + 1) * denominator = floor * denominator + denominator :=
    Nat.succ_mul floor denominator
  dsimp only
  split
  · omega
  · split
    · omega
    · rcases Nat.mod_two_eq_zero_or_one floor with even | odd
      · rw [even, Nat.add_zero]
        omega
      · rw [odd]
        omega

theorem halfEven_eq_even (numerator denominator half : Nat) (positive : 0 < denominator)
    (below : 2 * numerator ≤ 2 * (2 * half * denominator) + denominator)
    (above : 2 * (2 * half * denominator) ≤ 2 * numerator + denominator) :
    halfEven numerator denominator = 2 * half := by
  have parts := Nat.div_add_mod numerator denominator
  have rest := Nat.mod_lt numerator positive
  unfold halfEven
  rw [Nat.mul_comm] at parts
  generalize numerator % denominator = remainder at parts rest ⊢
  generalize numerator / denominator = floor at parts ⊢
  have notAbove : floor < 2 * half + 1 := by
    by_contra exceeds
    have scaled := Nat.mul_le_mul_right denominator (Nat.le_of_not_lt exceeds)
    rw [Nat.succ_mul] at scaled
    omega
  have notBelow : 2 * half < floor + 2 := by
    by_contra falls
    have scaled := Nat.mul_le_mul_right denominator (Nat.le_of_not_lt falls)
    rw [Nat.add_mul] at scaled
    omega
  dsimp only
  obtain same | next : floor = 2 * half ∨ floor + 1 = 2 * half := by omega
  · rw [same] at parts
    split
    · exact same
    · split
      · omega
      · omega
  · have split : 2 * half * denominator = floor * denominator + denominator := by
      rw [← next, Nat.succ_mul]
    have odd : floor % 2 = 1 := by omega
    split
    · omega
    · split
      · exact next
      · rw [odd, next]

namespace Format

variable (format : Format)

theorem spacing_pos (steps : Nat) : 0 < format.spacing steps := Nat.two_pow_pos _

theorem log2_le_log2 {less more : Nat} (order : less ≤ more) : less.log2 ≤ more.log2 := by
  rcases Nat.eq_zero_or_pos less with zero | positive
  · simp [zero]
  · rw [Nat.le_log2 (by omega)]
    exact Nat.le_trans (Nat.log2_self_le (by omega)) order

theorem spacing_dvd_spacing {less more : Nat} (order : less ≤ more) :
    format.spacing less ∣ format.spacing more := by
  have exponents := log2_le_log2 order
  exact Nat.pow_dvd_pow 2 (by omega)

theorem spacing_dvd_two_pow (exponent : Nat) : format.spacing (2 ^ exponent) ∣ 2 ^ exponent := by
  have exact := format.spacing_dvd_mul 1 exponent (Nat.two_pow_pos _)
  simpa using exact

theorem log2_lt_of_lt {steps exponent : Nat} (positive : 0 < exponent)
    (bound : steps < 2 ^ exponent) : steps.log2 < exponent := by
  rcases Nat.eq_zero_or_pos steps with zero | nonzero
  · simpa [zero] using positive
  · exact (Nat.log2_lt (by omega)).mpr bound

theorem spacing_dvd_shift {target : Format} (precise : format.precision ≤ target.precision)
    {steps : Nat} (exact : format.spacing steps ∣ steps) (shift : Nat) :
    target.spacing (steps * 2 ^ shift) ∣ steps * 2 ^ shift := by
  have shifted : (steps * 2 ^ shift).log2 < steps.log2 + 1 + shift := by
    apply log2_lt_of_lt (by omega)
    rw [Nat.pow_add]
    exact Nat.mul_lt_mul_of_pos_right Nat.lt_log2_self (Nat.two_pow_pos shift)
  have scaled : format.spacing steps * 2 ^ shift ∣ steps * 2 ^ shift :=
    Nat.mul_dvd_mul_right exact _
  refine Nat.dvd_trans ?_ scaled
  unfold spacing
  simp only [Nat.pow_eq]
  rw [← Nat.pow_add]
  exact Nat.pow_dvd_pow 2 (by omega)

theorem spacing_le {steps exponent : Nat} (bound : steps < 2 ^ (exponent + format.precision)) :
    format.spacing steps ≤ 2 ^ exponent := by
  have precision := format.precision_pos
  have log := log2_lt_of_lt (by omega) bound
  exact Nat.pow_le_pow_right (by decide) (by omega)

theorem nearest_le {numerator denominator bound : Nat} (exact : format.spacing bound ∣ bound)
    (within : numerator ≤ denominator * bound) :
    format.nearest numerator denominator ≤ bound := by
  have floor : numerator / denominator ≤ bound := Nat.div_le_of_le_mul within
  obtain ⟨count, counted⟩ := Nat.dvd_trans (format.spacing_dvd_spacing floor) exact
  unfold nearest
  dsimp only
  generalize format.spacing (numerator / denominator) = unit at counted ⊢
  rw [counted, ← Nat.mul_assoc] at within
  rw [counted, Nat.mul_comm unit]
  exact Nat.mul_le_mul_right unit (halfEven_le numerator (denominator * unit) count within)

theorem le_nearest_of_dvd {numerator denominator bound : Nat} (positive : 0 < denominator)
    (whole : format.spacing (numerator / denominator) ∣ bound)
    (within : denominator * bound ≤ numerator) :
    bound ≤ format.nearest numerator denominator := by
  obtain ⟨count, counted⟩ := whole
  unfold nearest
  dsimp only
  have unitPositive := format.spacing_pos (numerator / denominator)
  generalize format.spacing (numerator / denominator) = unit at counted unitPositive ⊢
  rw [counted, ← Nat.mul_assoc] at within
  rw [counted, Nat.mul_comm unit]
  refine Nat.mul_le_mul_right unit ?_
  exact le_halfEven numerator (denominator * unit) count (Nat.mul_pos positive unitPositive) within

/-- Between a count that the format can write down and a greater quotient there is a count on the
grid at the quotient. -/
theorem exists_grid_between {bound quotient : Nat} (exact : format.spacing bound ∣ bound)
    (order : bound ≤ quotient) :
    ∃ point, format.spacing quotient ∣ point ∧ bound ≤ point ∧ point ≤ quotient := by
  by_cases whole : format.spacing quotient ∣ bound
  · exact ⟨bound, whole, Nat.le_refl _, order⟩
  -- Here the grid at the quotient is coarser, so a power of two lies between.
  have precision := format.precision_pos
  have nonzero : quotient ≠ 0 := by
    intro zero
    rw [show bound = 0 by omega] at whole
    exact whole (Nat.dvd_zero _)
  have small : bound < 2 ^ quotient.log2 := by
    by_contra large
    have reached := log2_le_log2 (Nat.le_of_not_lt large)
    rw [Nat.log2_two_pow] at reached
    have same : quotient.log2 = bound.log2 := Nat.le_antisymm reached (log2_le_log2 order)
    apply whole
    unfold spacing at exact ⊢
    rwa [same]
  exact ⟨2 ^ quotient.log2, Nat.pow_dvd_pow 2 (by omega), Nat.le_of_lt small,
    Nat.log2_self_le nonzero⟩

theorem le_nearest {numerator denominator bound : Nat} (positive : 0 < denominator)
    (exact : format.spacing bound ∣ bound) (within : denominator * bound ≤ numerator) :
    bound ≤ format.nearest numerator denominator := by
  have floor : bound ≤ numerator / denominator := by
    rwa [Nat.le_div_iff_mul_le positive, Nat.mul_comm]
  obtain ⟨point, grid, above, below⟩ := format.exists_grid_between exact floor
  rw [Nat.le_div_iff_mul_le positive, Nat.mul_comm] at below
  exact Nat.le_trans above (format.le_nearest_of_dvd positive grid below)

theorem two_pow_le_nearest {steps exponent : Nat} (reached : 2 ^ exponent ≤ steps) :
    2 ^ exponent ≤ format.nearest steps 1 :=
  format.le_nearest Nat.one_pos (format.spacing_dvd_two_pow exponent) (by rwa [Nat.one_mul])

theorem nearest_eq {numerator denominator steps : Nat} (positive : 0 < denominator)
    (exact : format.spacing steps ∣ steps) (same : numerator = denominator * steps) :
    format.nearest numerator denominator = steps :=
  Nat.le_antisymm (format.nearest_le exact (Nat.le_of_eq same))
    (format.le_nearest positive exact (Nat.le_of_eq same.symm))

theorem nearest_distance (steps : Nat) :
    2 * format.nearest steps 1 ≤ 2 * steps + format.spacing steps ∧
      2 * steps ≤ 2 * format.nearest steps 1 + format.spacing steps := by
  have distance := halfEven_distance steps (format.spacing steps) (format.spacing_pos steps)
  simpa [nearest] using distance

theorem nearest_eq_of_near {steps near : Nat} (even : 2 * format.spacing steps ∣ near)
    (below : 2 * steps ≤ 2 * near + format.spacing steps)
    (above : 2 * near ≤ 2 * steps + format.spacing steps) : format.nearest steps 1 = near := by
  obtain ⟨half, halved⟩ := even
  have regrouped : near = 2 * half * format.spacing steps := by
    rw [halved]
    ring
  rw [regrouped] at below above
  have rounded := halfEven_eq_even steps (format.spacing steps) half (format.spacing_pos steps)
    below above
  simp only [nearest, Nat.div_one, Nat.one_mul, rounded, regrouped]

theorem two_pow_le_sub {less more : Nat} (exactLess : format.spacing less ∣ less)
    (exactMore : format.spacing more ∣ more) (order : less < more) :
    2 ^ (more.log2 - format.precision) ≤ more - less := by
  have powerBelow : 2 ^ more.log2 ≤ more := Nat.log2_self_le (by omega)
  rcases Nat.lt_or_ge (less.log2 + 1) more.log2 with far | near
  · have half : less < 2 ^ (more.log2 - 1) :=
      Nat.lt_of_lt_of_le Nat.lt_log2_self (Nat.pow_le_pow_right (by decide) (by omega))
    have split : 2 ^ more.log2 = 2 ^ (more.log2 - 1) + 2 ^ (more.log2 - 1) := by
      rw [← Nat.two_mul, ← Nat.pow_succ']
      congr 1
      omega
    have smaller : 2 ^ (more.log2 - format.precision) ≤ 2 ^ (more.log2 - 1) :=
      Nat.pow_le_pow_right (by decide) (by have := format.precision_pos; omega)
    omega
  · have dividesMore : 2 ^ (more.log2 - format.precision) ∣ more :=
      Nat.dvd_trans (Nat.pow_dvd_pow 2 (by omega)) exactMore
    have dividesLess : 2 ^ (more.log2 - format.precision) ∣ less :=
      Nat.dvd_trans (Nat.pow_dvd_pow 2 (by omega)) exactLess
    exact Nat.le_of_dvd (by omega) (Nat.dvd_sub dividesMore dividesLess)

end Format

namespace Binary

variable {format : Format}

def place : Binary format → Int
  | finite negative steps _ => signed negative steps
  | _ => 0

theorem natAbs_signed (negative : Bool) (steps : Nat) : (signed negative steps).natAbs = steps := by
  cases negative <;> simp [signed]

theorem exists_eq_finite {number : Binary format} (isFinite : number.isFinite = true) :
    ∃ negative steps exact, number = finite negative steps exact := by
  cases number with
  | nan => cases isFinite
  | infinite negative => cases isFinite
  | finite negative steps exact => exact ⟨negative, steps, exact, rfl⟩

theorem position?_of_isFinite {number : Binary format} (finite : number.isFinite = true) :
    number.position? = some number.place := by
  obtain ⟨negative, steps, exact, rfl⟩ := exists_eq_finite finite
  rfl

theorem natAbs_place_exact {number : Binary format} (finite : number.isFinite = true) :
    format.Exact number.place.natAbs := by
  obtain ⟨negative, steps, exact, rfl⟩ := exists_eq_finite finite
  rwa [place, natAbs_signed]

theorem natAbs_place_lt {number : Binary format} (finite : number.isFinite = true) :
    number.place.natAbs < 2 ^ format.reach :=
  (natAbs_place_exact finite).2

theorem le_iff_place {left right : Binary format} (leftFinite : left.isFinite = true)
    (rightFinite : right.isFinite = true) :
    left.le right = true ↔ left.place ≤ right.place := by
  simp [le, compareWith, position?_of_isFinite leftFinite, position?_of_isFinite rightFinite]

theorem lt_iff_place {left right : Binary format} (leftFinite : left.isFinite = true)
    (rightFinite : right.isFinite = true) :
    left.lt right = true ↔ left.place < right.place := by
  simp [lt, compareWith, position?_of_isFinite leftFinite, position?_of_isFinite rightFinite]

theorem eq_of_place_eq {left right : Binary format} (leftFinite : left.isFinite = true)
    (rightFinite : right.isFinite = true) (same : left.place = right.place)
    (nonzero : left.place ≠ 0) : left = right := by
  obtain ⟨negative, steps, exact, rfl⟩ := exists_eq_finite leftFinite
  obtain ⟨opposite, more, exactMore, rfl⟩ := exists_eq_finite rightFinite
  simp only [place] at same nonzero
  have sizes : steps = more := by
    rw [← natAbs_signed negative steps, same, natAbs_signed]
  subst sizes
  have signs : negative = opposite := by
    cases negative <;> cases opposite <;> simp [signed] at same nonzero ⊢ <;> omega
  subst signs
  rfl

@[simp] theorem isFinite_neg (number : Binary format) : (-number).isFinite = number.isFinite := by
  cases number <;> rfl

@[simp] theorem place_neg (number : Binary format) : (-number).place = -number.place := by
  cases number with
  | nan => rfl
  | infinite negative => rfl
  | finite negative steps exact =>
      change signed (!negative) steps = -signed negative steps
      cases negative <;> simp [signed]

@[simp] theorem isFinite_abs (number : Binary format) : number.abs.isFinite = number.isFinite := by
  cases number <;> rfl

@[simp] theorem place_abs (number : Binary format) : number.abs.place = number.place.natAbs := by
  cases number with
  | nan => rfl
  | infinite negative => rfl
  | finite negative steps exact => rw [place, natAbs_signed]; rfl

def Within (exponent : Nat) (number : Binary format) : Prop :=
  number.isFinite = true ∧ number.place.natAbs ≤ 2 ^ exponent

@[simp] theorem place_zero (negative : Bool) : (zero negative : Binary format).place = 0 := by
  cases negative <;> rfl

theorem within_zero (negative : Bool) (exponent : Nat) :
    (zero negative : Binary format).Within exponent :=
  ⟨rfl, by simp⟩

/-- Holds of the numbers no closer to zero than a power of two. -/
def Reaches (exponent : Nat) (number : Binary format) : Prop :=
  2 ^ exponent ≤ number.place.natAbs

theorem Reaches.place_ne_zero {exponent : Nat} {number : Binary format}
    (reaches : number.Reaches exponent) : number.place ≠ 0 := by
  intro zero
  unfold Reaches at reaches
  have positive := Nat.two_pow_pos exponent
  rw [zero] at reaches
  omega

theorem Within.mono {less more : Nat} {number : Binary format} (within : number.Within less)
    (order : less ≤ more) : number.Within more :=
  ⟨within.1, Nat.le_trans within.2 (Nat.pow_le_pow_right (by decide) order)⟩

theorem round_of_lt (negative : Bool) (numerator denominator : Nat)
    (bound : format.nearest numerator denominator < format.limit) :
    (round negative numerator denominator : Binary format).isFinite = true ∧
      (round negative numerator denominator : Binary format).place =
        signed negative (format.nearest numerator denominator) := by
  simp [round, bound, isFinite, place]

theorem within_round (negative : Bool) (numerator denominator exponent : Nat)
    (reach : exponent < format.reach) (within : numerator ≤ denominator * 2 ^ exponent) :
    (round negative numerator denominator : Binary format).Within exponent ∧
      (round negative numerator denominator : Binary format).place =
        signed negative (format.nearest numerator denominator) := by
  have rounded := format.nearest_le (format.spacing_dvd_two_pow exponent) within
  have bound : format.nearest numerator denominator < format.limit :=
    Nat.lt_of_le_of_lt rounded (Nat.pow_lt_pow_right (by decide) reach)
  obtain ⟨finite, placed⟩ := round_of_lt negative numerator denominator bound
  exact ⟨⟨finite, by rw [placed, natAbs_signed]; exact rounded⟩, placed⟩

end Binary

def Format.nearestInt (format : Format) (total : Int) : Int :=
  Binary.signed (total < 0) (format.nearest total.natAbs 1)

namespace Format

variable (format : Format)

theorem natAbs_nearestInt (total : Int) :
    (format.nearestInt total).natAbs = format.nearest total.natAbs 1 :=
  Binary.natAbs_signed _ _

theorem nearestInt_zero : format.nearestInt 0 = 0 := by
  have exact := format.nearest_eq Nat.one_pos (Nat.dvd_zero (format.spacing 0)) rfl
  simpa [nearestInt, Binary.signed] using exact

theorem nearestInt_distance (total : Int) :
    2 * (format.nearestInt total - total).natAbs ≤ format.spacing total.natAbs := by
  have distance := format.nearest_distance total.natAbs
  unfold nearestInt Binary.signed
  split <;> rename_i sign <;> simp only [decide_eq_true_eq] at sign <;> omega

theorem le_nearestInt {bound total : Int} (exact : format.spacing bound.natAbs ∣ bound.natAbs)
    (order : bound ≤ total) : bound ≤ format.nearestInt total := by
  unfold nearestInt Binary.signed
  by_cases negative : total < 0
  · have rounded := format.nearest_le exact (show total.natAbs ≤ 1 * bound.natAbs by omega)
    simp only [negative, decide_true, if_true]
    omega
  · simp only [negative, decide_false, Bool.false_eq_true, if_false]
    by_cases positive : 0 ≤ bound
    · have rounded := format.le_nearest Nat.one_pos exact
        (show 1 * bound.natAbs ≤ total.natAbs by omega)
      omega
    · omega

theorem nearestInt_neg (total : Int) : format.nearestInt (-total) = -format.nearestInt total := by
  rcases Int.lt_trichotomy total 0 with negative | zero | positive
  · have mirrored : ¬ -total < 0 := by omega
    simp only [nearestInt, Binary.signed, Int.natAbs_neg, negative, mirrored, decide_true,
      decide_false, Bool.false_eq_true, if_true, if_false, Int.neg_neg]
  · simp [zero, nearestInt_zero]
  · have mirrored : -total < 0 := by omega
    have kept : ¬ total < 0 := by omega
    simp only [nearestInt, Binary.signed, Int.natAbs_neg, mirrored, kept, decide_true,
      decide_false, Bool.false_eq_true, if_true, if_false]

theorem nearestInt_le {bound total : Int} (exact : format.spacing bound.natAbs ∣ bound.natAbs)
    (order : total ≤ bound) : format.nearestInt total ≤ bound := by
  have mirrored : -bound ≤ format.nearestInt (-total) :=
    format.le_nearestInt (by simpa using exact) (by omega)
  rw [nearestInt_neg] at mirrored
  omega

theorem nearestInt_eq_of_near {total near : Int}
    (even : 2 * format.spacing total.natAbs ∣ near.natAbs)
    (close : 2 * (total - near).natAbs ≤ format.spacing total.natAbs)
    (aside : (total - near).natAbs < near.natAbs) : format.nearestInt total = near := by
  have rounded := format.nearest_eq_of_near even (by omega) (by omega)
  unfold nearestInt Binary.signed
  rw [rounded]
  by_cases negative : total < 0
  · simp only [negative, decide_true, if_true]
    omega
  · simp only [negative, decide_false, Bool.false_eq_true, if_false]
    omega

theorem two_pow_le_natAbs_sub {left right : Int}
    (exactLeft : format.spacing left.natAbs ∣ left.natAbs)
    (exactRight : format.spacing right.natAbs ∣ right.natAbs) (apart : left ≠ right)
    {size : Nat} (reached : 2 ^ size ≤ max left.natAbs right.natAbs) :
    2 ^ (size - format.precision) ≤ (left - right).natAbs := by
  have smaller : 2 ^ (size - format.precision) ≤ 2 ^ size :=
    Nat.pow_le_pow_right (by decide) (by omega)
  have gap {less more : Nat} (exactLess : format.spacing less ∣ less)
      (exactMore : format.spacing more ∣ more) (order : less < more) (large : 2 ^ size ≤ more) :
      2 ^ (size - format.precision) ≤ more - less := by
    have log : size ≤ more.log2 := (Nat.le_log2 (by omega)).mpr large
    refine Nat.le_trans ?_ (format.two_pow_le_sub exactLess exactMore order)
    exact Nat.pow_le_pow_right (by decide) (by omega)
  rcases Nat.lt_trichotomy left.natAbs right.natAbs with inner | same | outer
  · have apart := gap exactLeft exactRight inner (by omega)
    omega
  · omega
  · have apart := gap exactRight exactLeft outer (by omega)
    omega

/-- Far out, where the numbers of a format are sparse, a small change is rounded away. -/
theorem nearestInt_add_of_far {place change : Int} {exponent : Nat}
    (small : change.natAbs ≤ 2 ^ exponent)
    (far : 2 ^ (exponent + format.precision) + 2 ^ exponent ≤ place.natAbs)
    (sparse : 2 ^ (place.natAbs.log2 + 3 - format.precision) ∣ place.natAbs) :
    format.nearestInt (place + change) = place := by
  have positive := Nat.two_pow_pos exponent
  have large : 2 ^ (exponent + format.precision) ≤ (place + change).natAbs := by omega
  have order : exponent ≤ exponent + format.precision := Nat.le_add_right _ _
  have scaled : 2 ^ exponent ≤ 2 ^ (exponent + format.precision) :=
    Nat.pow_le_pow_right (by decide) order
  have logLow : exponent + format.precision ≤ (place + change).natAbs.log2 :=
    (Nat.le_log2 (by omega)).mpr large
  have logHigh : (place + change).natAbs.log2 < place.natAbs.log2 + 2 := by
    apply log2_lt_of_lt (by omega)
    have doubled : place.natAbs < 2 ^ (place.natAbs.log2 + 1) := Nat.lt_log2_self
    rw [Nat.pow_succ] at doubled ⊢
    omega
  have spacing : 2 * format.spacing (place + change).natAbs =
      2 ^ ((place + change).natAbs.log2 + 2 - format.precision) := by
    unfold Format.spacing
    simp only [Nat.pow_eq]
    rw [← Nat.pow_succ']
    congr 1
    omega
  apply format.nearestInt_eq_of_near
  · rw [spacing]
    exact Nat.dvd_trans (Nat.pow_dvd_pow 2 (by omega)) sparse
  · have wide : 2 ^ (exponent + 2) ≤ 2 ^ ((place + change).natAbs.log2 + 2 - format.precision) :=
      Nat.pow_le_pow_right (by decide) (by omega)
    rw [← spacing, Nat.pow_add] at wide
    omega
  · omega

theorem two_pow_le_nearestInt_sub {place : Int} {exponent least : Nat}
    (exact : format.spacing place.natAbs ∣ place.natAbs)
    (near : place.natAbs ≤ 2 ^ (exponent + format.precision)) (lesser : least < exponent) :
    2 ^ least ≤ (format.nearestInt (place + (2 ^ exponent : Nat)) -
      format.nearestInt (place - (2 ^ exponent : Nat))).natAbs := by
  have positive := Nat.two_pow_pos exponent
  have scaled : 2 ^ exponent < 2 ^ (exponent + format.precision) :=
    Nat.pow_lt_pow_right (by decide) (by have := format.precision_pos; omega)
  have halved : 2 ^ (least + 1) ≤ 2 ^ exponent := Nat.pow_le_pow_right (by decide) lesser
  rw [Nat.pow_succ] at halved
  by_cases side : 0 ≤ place
  · have inner : (place - (2 ^ exponent : Nat)).natAbs < 2 ^ (exponent + format.precision) := by
      omega
    have spacing := format.spacing_le inner
    have distance := format.nearestInt_distance (place - (2 ^ exponent : Nat))
    have kept := format.le_nearestInt exact (show place ≤ place + (2 ^ exponent : Nat) by omega)
    omega
  · have inner : (place + (2 ^ exponent : Nat)).natAbs < 2 ^ (exponent + format.precision) := by
      omega
    have spacing := format.spacing_le inner
    have distance := format.nearestInt_distance (place + (2 ^ exponent : Nat))
    have kept := format.nearestInt_le exact (show place - (2 ^ exponent : Nat) ≤ place by omega)
    omega

end Format

namespace Binary

variable {format : Format}

theorem place_toFormat {target : Format} {shift : Nat} {number : Binary format}
    (finite : number.isFinite = true) (finer : target.fraction = format.fraction + shift)
    (precise : format.precision ≤ target.precision) (reach : format.reach + shift < target.reach) :
    (number.toFormat target).place = number.place * (2 ^ shift : Nat) ∧
      (number.toFormat target).Within (format.reach + shift) := by
  obtain ⟨negative, steps, exact, rfl⟩ := exists_eq_finite finite
  have product : steps * target.one = format.one * (steps * 2 ^ shift) := by
    unfold Format.one
    simp only [Nat.pow_eq]
    rw [finer, Nat.pow_add]
    ring
  have rounded : target.nearest (steps * target.one) format.one = steps * 2 ^ shift :=
    target.nearest_eq (Nat.two_pow_pos _) (format.spacing_dvd_shift precise exact.1 shift) product
  have bound : steps * target.one ≤ format.one * 2 ^ (format.reach + shift) := by
    rw [product, Nat.pow_add]
    exact Nat.mul_le_mul_left _ (Nat.mul_le_mul_right _ (Nat.le_of_lt exact.2))
  have rounding : (round negative (steps * target.one) format.one : Binary target).Within
        (format.reach + shift) ∧ _ :=
    within_round negative (steps * target.one) format.one (format.reach + shift) reach bound
  obtain ⟨within, placed⟩ := rounding
  refine ⟨?_, within⟩
  change (round _ _ _ : Binary target).place = signed negative steps * (2 ^ shift : Nat)
  rw [placed, rounded]
  cases negative <;> simp [signed]

theorem within_add {left right : Binary format} {exponent : Nat}
    (leftWithin : left.Within exponent) (rightWithin : right.Within exponent)
    (reach : exponent + 1 < format.reach) :
    (left + right).Within (exponent + 1) ∧
      (left + right).place = format.nearestInt (left.place + right.place) := by
  obtain ⟨leftFinite, leftBound⟩ := leftWithin
  obtain ⟨rightFinite, rightBound⟩ := rightWithin
  obtain ⟨negative, steps, exact, rfl⟩ := exists_eq_finite leftFinite
  obtain ⟨other, more, exactMore, rfl⟩ := exists_eq_finite rightFinite
  simp only [place] at leftBound rightBound
  change (add _ _).Within _ ∧
    (add _ _).place = format.nearestInt (signed negative steps + signed other more)
  simp only [add]
  by_cases zero : signed negative steps + signed other more = 0
  · simp only [zero, if_true, Format.nearestInt_zero]
    exact ⟨within_zero _ _, place_zero _⟩
  · simp only [zero, if_false]
    have total : (signed negative steps + signed other more).natAbs ≤ 1 * 2 ^ (exponent + 1) := by
      rw [Nat.pow_succ]
      omega
    exact within_round _ _ 1 _ reach total

theorem within_neg {number : Binary format} {exponent : Nat} (within : number.Within exponent) :
    (-number).Within exponent := by
  simpa [Within] using within

theorem within_sub {left right : Binary format} {exponent : Nat}
    (leftWithin : left.Within exponent) (rightWithin : right.Within exponent)
    (reach : exponent + 1 < format.reach) :
    (left - right).Within (exponent + 1) ∧
      (left - right).place = format.nearestInt (left.place - right.place) := by
  have sum := within_add leftWithin (within_neg rightWithin) reach
  rw [place_neg, ← Int.sub_eq_add_neg] at sum
  exact sum

theorem within_mul {left right : Binary format} {exponent other total : Nat}
    (leftWithin : left.Within exponent) (rightWithin : right.Within other)
    (exponents : exponent + other = format.fraction + total) (reach : total < format.reach) :
    (left * right).Within total := by
  obtain ⟨leftFinite, leftBound⟩ := leftWithin
  obtain ⟨rightFinite, rightBound⟩ := rightWithin
  obtain ⟨negative, steps, exact, rfl⟩ := exists_eq_finite leftFinite
  obtain ⟨opposite, more, exactMore, rfl⟩ := exists_eq_finite rightFinite
  simp only [place, natAbs_signed] at leftBound rightBound
  have product : steps * more ≤ format.one * 2 ^ total := by
    calc steps * more ≤ 2 ^ exponent * 2 ^ other := Nat.mul_le_mul leftBound rightBound
      _ = 2 ^ format.fraction * 2 ^ total := by rw [← Nat.pow_add, exponents, Nat.pow_add]
  exact (within_round _ _ _ total reach product).1

theorem within_div {left right : Binary format} {exponent least total : Nat}
    (leftWithin : left.Within exponent) (rightFinite : right.isFinite = true)
    (rightReaches : right.Reaches least)
    (exponents : exponent + format.fraction = least + total) (reach : total < format.reach) :
    (left / right).Within total := by
  obtain ⟨leftFinite, leftBound⟩ := leftWithin
  obtain ⟨negative, steps, exact, rfl⟩ := exists_eq_finite leftFinite
  obtain ⟨opposite, more, exactMore, rfl⟩ := exists_eq_finite rightFinite
  have nonzero : more ≠ 0 := by
    intro zero
    exact rightReaches.place_ne_zero (by cases opposite <;> simp [place, signed, zero])
  simp only [Reaches, place, natAbs_signed] at leftBound rightReaches
  have quotient : steps * format.one ≤ more * 2 ^ total := by
    calc steps * format.one ≤ 2 ^ exponent * 2 ^ format.fraction :=
          Nat.mul_le_mul_right _ leftBound
      _ = 2 ^ least * 2 ^ total := by rw [← Nat.pow_add, exponents, Nat.pow_add]
      _ ≤ more * 2 ^ total := Nat.mul_le_mul_right _ rightReaches
  change (div _ _).Within _
  simp only [div, nonzero, if_false]
  exact (within_round _ _ _ total reach quotient).1

end Binary

end Toolpath
