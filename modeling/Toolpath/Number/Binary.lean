/-! Binary floating-point numbers: a sign and a count of steps of `2 ^ -fraction` with at most
`precision` significant bits. Every operation rounds its exact result once. -/

namespace Toolpath

/-- Names a binary format: significant bits, halvings of one in a step, and the power of two that no
count of steps reaches. -/
structure Format where
  precision : Nat
  fraction : Nat
  reach : Nat
  precision_pos : 0 < precision := by decide
deriving DecidableEq

def halfEven (numerator denominator : Nat) : Nat :=
  let floor := numerator / denominator
  let rest := numerator % denominator
  if 2 * rest < denominator then floor
  else if denominator < 2 * rest then floor + 1
  else floor + floor % 2

namespace Format

def double : Format := ⟨53, 1074, 2098, by decide⟩

def single : Format := ⟨24, 149, 277, by decide⟩

def one (format : Format) : Nat := Nat.pow 2 format.fraction

def limit (format : Format) : Nat := Nat.pow 2 format.reach

def spacing (format : Format) (steps : Nat) : Nat :=
  Nat.pow 2 (steps.log2 + 1 - format.precision)

def Exact (format : Format) (steps : Nat) : Prop :=
  format.spacing steps ∣ steps ∧ steps < format.limit

instance (format : Format) (steps : Nat) : Decidable (format.Exact steps) :=
  inferInstanceAs (Decidable (_ ∧ _))

/-- The count with enough trailing zero bits that lies nearest to a quotient; it may pass the
format's reach. -/
def nearest (format : Format) (numerator denominator : Nat) : Nat :=
  let unit := format.spacing (numerator / denominator)
  halfEven numerator (denominator * unit) * unit

end Format

theorem halfEven_le_succ (numerator denominator : Nat) :
    halfEven numerator denominator ≤ numerator / denominator + 1 := by
  unfold halfEven
  have parity := Nat.mod_lt (numerator / denominator) (by decide : 2 > 0)
  dsimp only
  split
  · omega
  · split <;> omega

namespace Format

theorem limit_pos (format : Format) : 0 < format.limit := Nat.two_pow_pos _

theorem spacing_dvd_mul (format : Format) (count shift : Nat)
    (bound : count ≤ Nat.pow 2 format.precision) :
    format.spacing (count * Nat.pow 2 shift) ∣ count * Nat.pow 2 shift := by
  have positive := format.precision_pos
  unfold spacing
  simp only [Nat.pow_eq] at bound ⊢
  rcases Nat.eq_zero_or_pos count with zero | nonzero
  · simp [zero]
  rcases Nat.lt_or_eq_of_le bound with below | full
  · have size : (count * 2 ^ shift).log2 < format.precision + shift := by
      refine (Nat.log2_lt ?_).mpr ?_
      · exact Nat.ne_of_gt (Nat.mul_pos nonzero (Nat.two_pow_pos shift))
      · rw [Nat.pow_add]
        exact Nat.mul_lt_mul_of_pos_right below (Nat.two_pow_pos shift)
    exact Nat.dvd_trans (Nat.pow_dvd_pow 2 (by omega)) (Nat.dvd_mul_left _ _)
  · rw [full, ← Nat.pow_add, Nat.log2_two_pow]
    exact Nat.pow_dvd_pow 2 (by omega)

theorem nearest_quotient_le (format : Format) (numerator denominator : Nat) :
    halfEven numerator (denominator * format.spacing (numerator / denominator)) ≤
      Nat.pow 2 format.precision := by
  have step := halfEven_le_succ numerator (denominator * format.spacing (numerator / denominator))
  rw [← Nat.div_div_eq_div_mul] at step
  generalize numerator / denominator = quotient at step ⊢
  have small : quotient / format.spacing quotient < Nat.pow 2 format.precision := by
    refine Nat.div_lt_of_lt_mul ?_
    unfold spacing
    simp only [Nat.pow_eq]
    rw [← Nat.pow_add]
    refine Nat.lt_of_lt_of_le Nat.lt_log2_self (Nat.pow_le_pow_right (by decide) (by omega))
  omega

theorem spacing_dvd_nearest (format : Format) (numerator denominator : Nat) :
    format.spacing (format.nearest numerator denominator) ∣
      format.nearest numerator denominator := by
  unfold nearest
  exact format.spacing_dvd_mul _ _ (format.nearest_quotient_le numerator denominator)

theorem nearest_exact (format : Format) (numerator denominator : Nat)
    (bound : format.nearest numerator denominator < format.limit) :
    format.Exact (format.nearest numerator denominator) :=
  ⟨format.spacing_dvd_nearest numerator denominator, bound⟩

end Format

/-- A number of a binary format: not a number, a signed infinity, or a signed count of steps. -/
inductive Binary (format : Format) where
  | nan
  | infinite (negative : Bool)
  | finite (negative : Bool) (steps : Nat) (exact : format.Exact steps)
deriving DecidableEq

abbrev Double := Binary .double

abbrev Single := Binary .single

namespace Binary

variable {format : Format}

def round (negative : Bool) (numerator denominator : Nat) : Binary format :=
  if bound : format.nearest numerator denominator < format.limit then
    finite negative (format.nearest numerator denominator)
      (format.nearest_exact numerator denominator bound)
  else infinite negative

def signed (negative : Bool) (steps : Nat) : Int :=
  if negative then -(steps : Int) else steps

/-- The place of a number on the line of steps; the infinities stand at the reach, past every finite
number, and what is not a number has no place. -/
def position? : Binary format → Option Int
  | nan => none
  | infinite negative => some (signed negative format.limit)
  | finite negative steps _ => some (signed negative steps)

def isNaN : Binary format → Bool
  | nan => true
  | _ => false

def isFinite : Binary format → Bool
  | finite .. => true
  | _ => false

def compareWith (relation : Int → Int → Bool) (left right : Binary format) : Bool :=
  match left.position?, right.position? with
  | some a, some b => relation a b
  | _, _ => false

/-- Numeric equality: the two zeros are equal, and what is not a number differs from everything. -/
def equals (left right : Binary format) : Bool :=
  compareWith (fun a b => decide (a = b)) left right

def lt (left right : Binary format) : Bool :=
  compareWith (fun a b => decide (a < b)) left right

def le (left right : Binary format) : Bool :=
  compareWith (fun a b => decide (a ≤ b)) left right

instance : LT (Binary format) := ⟨fun left right => left.lt right = true⟩
instance : LE (Binary format) := ⟨fun left right => left.le right = true⟩
instance (left right : Binary format) : Decidable (left < right) :=
  inferInstanceAs (Decidable (_ = true))
instance (left right : Binary format) : Decidable (left ≤ right) :=
  inferInstanceAs (Decidable (_ = true))

theorem exact_zero : format.Exact 0 := ⟨Nat.dvd_zero _, format.limit_pos⟩

def zero (negative : Bool) : Binary format := finite negative 0 exact_zero

def ofInt (value : Int) : Binary format :=
  round (value < 0) (value.natAbs * format.one) 1

def ofInt? (value : Int) : Option (Binary format) :=
  match ofInt value with
  | infinite _ => none
  | number => some number

instance (value : Nat) : OfNat (Binary format) value := ⟨ofInt value⟩
instance : Inhabited (Binary format) := ⟨zero false⟩

def neg : Binary format → Binary format
  | nan => nan
  | infinite negative => infinite !negative
  | finite negative steps exact => finite (!negative) steps exact

def abs : Binary format → Binary format
  | nan => nan
  | infinite _ => infinite false
  | finite _ steps exact => finite false steps exact

def unsignedZero : Binary format → Binary format
  | finite negative steps exact => finite (negative && steps != 0) steps exact
  | number => number

/-- An exact zero is negative only as the sum of two negative zeros. -/
def add : Binary format → Binary format → Binary format
  | nan, _ => nan
  | _, nan => nan
  | infinite negative, infinite other => if negative = other then infinite negative else nan
  | infinite negative, finite .. => infinite negative
  | finite .., infinite negative => infinite negative
  | finite negative steps _, finite other more _ =>
    let total := signed negative steps + signed other more
    if total = 0 then zero (negative && other) else round (total < 0) total.natAbs 1

def sub (left right : Binary format) : Binary format := left.add right.neg

def mul : Binary format → Binary format → Binary format
  | nan, _ => nan
  | _, nan => nan
  | infinite negative, infinite other => infinite (negative != other)
  | infinite negative, finite other steps _ =>
    if steps = 0 then nan else infinite (negative != other)
  | finite negative steps _, infinite other =>
    if steps = 0 then nan else infinite (negative != other)
  | finite negative steps _, finite other more _ =>
    round (negative != other) (steps * more) format.one

def div : Binary format → Binary format → Binary format
  | nan, _ => nan
  | _, nan => nan
  | infinite _, infinite _ => nan
  | infinite negative, finite other _ _ => infinite (negative != other)
  | finite negative _ _, infinite other => zero (negative != other)
  | finite negative steps _, finite other more _ =>
    if more = 0 then if steps = 0 then nan else infinite (negative != other)
    else round (negative != other) (steps * format.one) more

instance : Neg (Binary format) := ⟨neg⟩
instance : Add (Binary format) := ⟨add⟩
instance : Sub (Binary format) := ⟨sub⟩
instance : Mul (Binary format) := ⟨mul⟩
instance : Div (Binary format) := ⟨div⟩

def lesser (left right : Binary format) : Binary format :=
  if left < right then left else right

def greater (left right : Binary format) : Binary format :=
  if right < left then left else right

def toFormat (target : Format) : Binary format → Binary target
  | nan => nan
  | infinite negative => infinite negative
  | finite negative steps _ =>
    round negative (steps * target.one) format.one

def exceeds (number : Binary format) (whole : Int) : Bool :=
  match number with
  | nan => false
  | infinite negative => !negative
  | finite negative steps _ => decide (whole * format.one < signed negative steps)

def equalsInt (number : Binary format) (whole : Int) : Bool :=
  match number with
  | finite negative steps _ => decide (signed negative steps = whole * format.one)
  | _ => false

end Binary

end Toolpath
