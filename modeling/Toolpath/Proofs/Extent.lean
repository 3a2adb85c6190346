import Toolpath.Preview
import Toolpath.Proofs.Rounding

/-!
How wide a range of single-precision coordinates is once it has been widened. Singles count steps of
`2 ^ -149` and doubles steps of `2 ^ -1074`, so a single has `2 ^ 925` times its place as a double.
-/

namespace Toolpath

open Binary

theorem place_widen {coordinate : Single} (finite : coordinate.isFinite = true) :
    (Preview.widen coordinate).place = coordinate.place * (2 ^ 925 : Nat) ∧
      (Preview.widen coordinate).Within 1202 :=
  place_toFormat finite rfl (by decide) (by decide)

theorem digit_zero : (Scalar.digit 0 0 : Double) = zero false := by decide +kernel

theorem within_digit_one : (Scalar.digit 1 0 : Double).Within 1074 := by
  constructor <;> decide +kernel

theorem place_digit_one : (Scalar.digit 1 0 : Double).place = (2 ^ 1074 : Nat) := by decide +kernel

theorem within_tolerance : (Scalar.digit 1 (-9) : Double).Within 1045 := by
  constructor <;> decide +kernel

theorem within_leastScale : (leastScale : Double).Within 1074 := by
  constructor <;> decide +kernel

theorem within_digit_tenths (tenths : Nat) (few : tenths = 4 ∨ tenths = 5) :
    (Scalar.digit tenths (-1) : Double).Within 1074 := by
  rcases few with rfl | rfl <;> constructor <;> decide +kernel

theorem isClose_eq (left right : Double) : Scalar.isClose left right =
    ((right - left).abs.le ((Scalar.digit 1 (-9) : Double) * right).abs ||
      (right - left).abs.le ((Scalar.digit 1 (-9) : Double) * left).abs) := rfl

theorem natAbs_shift_le {place : Int} {size shift total : Nat} (bound : place.natAbs ≤ 2 ^ size)
    (exponents : size + shift = total) : (place * (2 ^ shift : Nat)).natAbs ≤ 2 ^ total := by
  rw [Int.natAbs_mul, Int.natAbs_natCast, ← exponents, Nat.pow_add]
  exact Nat.mul_le_mul_right _ bound

theorem le_natAbs_shift {place : Int} {size : Nat} (bound : 2 ^ size ≤ place.natAbs)
    (shift : Nat) : 2 ^ (size + shift) ≤ (place * (2 ^ shift : Nat)).natAbs := by
  rw [Int.natAbs_mul, Int.natAbs_natCast, Nat.pow_add]
  exact Nat.mul_le_mul_right _ bound

theorem within_widen {coordinate : Single} (finite : coordinate.isFinite = true) {size : Nat}
    (small : coordinate.place.natAbs < 2 ^ (size + 1)) :
    (Preview.widen coordinate).Within (size + 926) := by
  obtain ⟨placed, within⟩ := place_widen finite
  refine ⟨within.1, ?_⟩
  rw [placed]
  exact natAbs_shift_le (Nat.le_of_lt small) (by omega)

theorem reaches_sub_widen {left right : Single} (leftFinite : left.isFinite = true)
    (rightFinite : right.isFinite = true) (apart : left.place ≠ right.place) {size : Nat}
    (reached : 2 ^ size ≤ max left.place.natAbs right.place.natAbs) :
    (Preview.widen right - Preview.widen left).Reaches (size - 24 + 925) := by
  obtain ⟨leftPlaced, leftWithin⟩ := place_widen leftFinite
  obtain ⟨rightPlaced, rightWithin⟩ := place_widen rightFinite
  have gap := Format.two_pow_le_natAbs_sub .single (natAbs_place_exact rightFinite).1
    (natAbs_place_exact leftFinite).1 (Ne.symm apart) (by rwa [Nat.max_comm])
  rw [Reaches, (within_sub rightWithin leftWithin (by decide)).2, leftPlaced, rightPlaced,
    ← Int.sub_mul, Format.natAbs_nearestInt]
  exact Format.two_pow_le_nearest .double (le_natAbs_shift gap 925)

theorem isClose_widen_iff {left right : Single} (leftFinite : left.isFinite = true)
    (rightFinite : right.isFinite = true) :
    Scalar.isClose (Preview.widen left) (Preview.widen right) = true ↔
      left.place = right.place := by
  obtain ⟨leftPlaced, leftWithin⟩ := place_widen leftFinite
  obtain ⟨rightPlaced, rightWithin⟩ := place_widen rightFinite
  have difference := within_sub rightWithin leftWithin (by decide)
  rw [isClose_eq, Bool.or_eq_true]
  constructor
  · intro close
    by_contra apart
    let size := (max left.place.natAbs right.place.natAbs).log2
    have nonzero : max left.place.natAbs right.place.natAbs ≠ 0 := by omega
    have reached : 2 ^ size ≤ max left.place.natAbs right.place.natAbs :=
      Nat.log2_self_le nonzero
    have limit : max left.place.natAbs right.place.natAbs < 2 ^ (size + 1) := Nat.lt_log2_self
    have bounded : size < Format.single.reach :=
      Format.log2_lt_of_lt (by decide)
        (max_lt (natAbs_place_lt leftFinite) (natAbs_place_lt rightFinite))
    have gap := reaches_sub_widen leftFinite rightFinite apart reached
    have never (coordinate : Single) (finite : coordinate.isFinite = true)
        (small : coordinate.place.natAbs < 2 ^ (size + 1))
        (below : (Preview.widen right - Preview.widen left).abs.le
          ((Scalar.digit 1 (-9) : Double) * Preview.widen coordinate).abs = true) : False := by
      have product : ((Scalar.digit 1 (-9) : Double) * Preview.widen coordinate).Within
          (size + 897) :=
        within_mul within_tolerance (within_widen finite small)
          (by change 1045 + (size + 926) = 1074 + (size + 897); omega)
          (by change size < 277 at bounded; change size + 897 < 2098; omega)
      rw [le_iff_place (by simpa using difference.1.1) (by simpa using product.1), place_abs,
        place_abs] at below
      have order : 2 ^ (size - 24 + 925) ≤ 2 ^ (size + 897) := by
        refine Nat.le_trans gap (Nat.le_trans ?_ product.2)
        exact Int.ofNat_le.mp below
      have exponents := (Nat.pow_le_pow_iff_right (by decide : 1 < 2)).mp order
      omega
    rcases close with close | close
    · exact never right rightFinite (by omega) close
    · exact never left leftFinite (by omega) close
  · intro same
    left
    have product : ((Scalar.digit 1 (-9) : Double) * Preview.widen right).Within 1173 :=
      within_mul within_tolerance rightWithin rfl (by decide)
    rw [le_iff_place (by simpa using difference.1.1) (by simpa using product.1), place_abs,
      place_abs, difference.2, leftPlaced, rightPlaced, same, Int.sub_self, Format.nearestInt_zero]
    exact Int.natCast_nonneg _

theorem spacing_dvd_natAbs_shift {place : Int}
    (exact : Format.single.spacing place.natAbs ∣ place.natAbs) (shift : Nat) :
    Format.double.spacing (place * (2 ^ shift : Nat)).natAbs ∣
      (place * (2 ^ shift : Nat)).natAbs := by
  rw [Int.natAbs_mul, Int.natAbs_natCast]
  exact Format.spacing_dvd_shift .single (by decide) exact shift

theorem nearestInt_add_of_beyond {place change : Int} {size exponent shift : Nat}
    (exact : Format.single.spacing place.natAbs ∣ place.natAbs) (beyond : 2 ^ size < place.natAbs)
    (large : 24 ≤ size) (small : change.natAbs ≤ 2 ^ exponent)
    (exponents : exponent + 53 = size + shift) :
    Format.double.nearestInt (place * (2 ^ shift : Nat) + change) = place * (2 ^ shift : Nat) := by
  have positive := Nat.two_pow_pos size
  have log : size ≤ place.natAbs.log2 := (Nat.le_log2 (by omega)).mpr (Nat.le_of_lt beyond)
  have product : (place * (2 ^ shift : Nat)).natAbs = place.natAbs * 2 ^ shift := by
    rw [Int.natAbs_mul, Int.natAbs_natCast]
  apply Format.nearestInt_add_of_far _ small
  · change 2 ^ (exponent + 53) + 2 ^ exponent ≤ _
    have gap := Format.two_pow_le_sub .single (Format.spacing_dvd_two_pow _ size) exact beyond
    have step : 2 ^ (size - 24) ≤ 2 ^ (place.natAbs.log2 - 24) :=
      Nat.pow_le_pow_right (by decide) (by omega)
    change 2 ^ (place.natAbs.log2 - 24) ≤ _ at gap
    have reached : 2 ^ size + 2 ^ (size - 24) ≤ place.natAbs := by omega
    have lesser : 2 ^ exponent ≤ 2 ^ (size - 24 + shift) :=
      Nat.pow_le_pow_right (by decide) (by omega)
    calc 2 ^ (exponent + 53) + 2 ^ exponent ≤ 2 ^ (size + shift) + 2 ^ (size - 24 + shift) := by
          rw [exponents]
          exact Nat.add_le_add_left lesser _
      _ = (2 ^ size + 2 ^ (size - 24)) * 2 ^ shift := by
          rw [Nat.add_mul, Nat.pow_add, Nat.pow_add]
      _ ≤ place.natAbs * 2 ^ shift := Nat.mul_le_mul_right _ reached
      _ = (place * (2 ^ shift : Nat)).natAbs := product.symm
  · change 2 ^ (_ + 3 - 53) ∣ _
    have shifted : (place.natAbs * 2 ^ shift).log2 < place.natAbs.log2 + 1 + shift := by
      apply Format.log2_lt_of_lt (by omega)
      rw [Nat.pow_add]
      exact Nat.mul_lt_mul_of_pos_right Nat.lt_log2_self (Nat.two_pow_pos shift)
    have scaled : 2 ^ (place.natAbs.log2 + 1 - 24 + shift) ∣ place.natAbs * 2 ^ shift := by
      rw [Nat.pow_add]
      exact Nat.mul_dvd_mul_right exact _
    rw [product]
    exact Nat.dvd_trans (Nat.pow_dvd_pow 2 (by omega)) scaled

/-- Holds of the numbers beyond `2 ^ 53`, where adding one to them as doubles changes nothing. -/
def Distant (coordinate : Single) : Prop := (9007199254740992 : Single) < coordinate.abs

theorem place_beyond : (9007199254740992 : Single).isFinite = true ∧
    (9007199254740992 : Single).place = (2 ^ 202 : Nat) := by
  constructor <;> decide +kernel

theorem distant_iff {coordinate : Single} (finite : coordinate.isFinite = true) :
    Distant coordinate ↔ 2 ^ 202 < coordinate.place.natAbs := by
  unfold Distant
  change Binary.lt _ _ = true ↔ _
  rw [lt_iff_place place_beyond.1 (by simpa using finite), place_beyond.2, place_abs]
  exact Int.ofNat_lt

abbrev between (low high : Single) : Span Double := ⟨Preview.widen low, Preview.widen high⟩

section Widened

variable {low high : Single} (lowFinite : low.isFinite = true) (highFinite : high.isFinite = true)

include lowFinite highFinite

theorem widened_of_ne (apart : low.place ≠ high.place) :
    (between low high).widened = between low high := by
  have distinct : Scalar.isClose (Preview.widen high) (Preview.widen low) = false := by
    rw [← Bool.not_eq_true, isClose_widen_iff highFinite lowFinite]
    exact Ne.symm apart
  simp only [Span.widened, distinct, Bool.false_eq_true, if_false]

theorem widened_of_eq (same : low.place = high.place) :
    (between low high).widened =
      ⟨Preview.widen low - Scalar.digit 1 0, Preview.widen high + Scalar.digit 1 0⟩ := by
  have close : Scalar.isClose (Preview.widen high) (Preview.widen low) = true :=
    (isClose_widen_iff highFinite lowFinite).mpr same.symm
  simp only [Span.widened, close, if_true]

theorem within_widened :
    (between low high).widened.low.Within 1203 ∧ (between low high).widened.high.Within 1203 := by
  have lowWithin := (place_widen lowFinite).2
  have highWithin := (place_widen highFinite).2
  have unit := within_digit_one.mono (show 1074 ≤ 1202 by decide)
  by_cases same : low.place = high.place
  · rw [widened_of_eq lowFinite highFinite same]
    exact ⟨(within_sub lowWithin unit (by decide)).1, (within_add highWithin unit (by decide)).1⟩
  · rw [widened_of_ne lowFinite highFinite same]
    exact ⟨lowWithin.mono (by decide), highWithin.mono (by decide)⟩

theorem within_extent_widened : (between low high).widened.extent.Within 1204 := by
  obtain ⟨lowWithin, highWithin⟩ := within_widened lowFinite highFinite
  exact (within_sub highWithin lowWithin (by decide)).1

theorem place_extent_widened (same : low.place = high.place) :
    (between low high).widened.extent.place = Format.double.nearestInt
      (Format.double.nearestInt (low.place * (2 ^ 925 : Nat) + (2 ^ 1074 : Nat)) -
        Format.double.nearestInt (low.place * (2 ^ 925 : Nat) - (2 ^ 1074 : Nat))) := by
  obtain ⟨lowPlaced, lowWithin⟩ := place_widen lowFinite
  obtain ⟨highPlaced, highWithin⟩ := place_widen highFinite
  have unit := within_digit_one.mono (show 1074 ≤ 1202 by decide)
  obtain ⟨loweredWithin, lowered⟩ := within_sub lowWithin unit (by decide)
  obtain ⟨raisedWithin, raised⟩ := within_add highWithin unit (by decide)
  rw [widened_of_eq lowFinite highFinite same]
  rw [Span.extent, (within_sub raisedWithin loweredWithin (by decide)).2, raised, lowered, lowPlaced,
    highPlaced, place_digit_one, same]

theorem extent_widened_of_distant (same : low.place = high.place) (distant : Distant low) :
    (between low high).widened.extent.place = 0 := by
  have beyond := (distant_iff lowFinite).mp distant
  have exact := (natAbs_place_exact lowFinite).1
  have small : ((2 ^ 1074 : Nat) : Int).natAbs ≤ 2 ^ 1074 := Nat.le_of_eq (Int.natAbs_natCast _)
  have kept {change : Int} (small : change.natAbs ≤ 2 ^ 1074) :
      Format.double.nearestInt (low.place * (2 ^ 925 : Nat) + change) =
        low.place * (2 ^ 925 : Nat) :=
    nearestInt_add_of_beyond exact beyond (by decide) small rfl
  have raised := kept small
  have lowered := kept (Nat.le_trans (Nat.le_of_eq (Int.natAbs_neg _)) small)
  rw [← Int.sub_eq_add_neg] at lowered
  rw [place_extent_widened lowFinite highFinite same, raised, lowered, Int.sub_self,
    Format.nearestInt_zero]

theorem reaches_extent_widened (apart : low.place = high.place → ¬ Distant low) :
    (between low high).widened.extent.Reaches 925 := by
  by_cases same : low.place = high.place
  · have near : low.place.natAbs ≤ 2 ^ 202 := by
      have notBeyond := mt (distant_iff lowFinite).mpr (apart same)
      omega
    have bounded : (low.place * (2 ^ 925 : Nat)).natAbs ≤ 2 ^ (1074 + Format.double.precision) :=
      natAbs_shift_le near rfl
    have spread : 2 ^ 925 ≤
        (Format.double.nearestInt (low.place * (2 ^ 925 : Nat) + (2 ^ 1074 : Nat)) -
          Format.double.nearestInt (low.place * (2 ^ 925 : Nat) - (2 ^ 1074 : Nat))).natAbs := by
      apply Format.two_pow_le_nearestInt_sub .double _ bounded (by decide)
      exact spacing_dvd_natAbs_shift (natAbs_place_exact lowFinite).1 925
    rw [Reaches, place_extent_widened lowFinite highFinite same, Format.natAbs_nearestInt]
    exact Format.two_pow_le_nearest .double spread
  · rw [widened_of_ne lowFinite highFinite same]
    have nonzero : 2 ^ 0 ≤ max low.place.natAbs high.place.natAbs := by omega
    have gap : (Preview.widen high - Preview.widen low).Reaches (0 - 24 + 925) :=
      reaches_sub_widen lowFinite highFinite same nonzero
    rw [show 0 - 24 + 925 = 925 from rfl] at gap
    exact gap

end Widened

end Toolpath
