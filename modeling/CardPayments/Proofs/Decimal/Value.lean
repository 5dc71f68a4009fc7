import CardPayments.Decimal.Rounding
import Mathlib.Algebra.Order.Field.Power
import Mathlib.Data.Rat.Floor
import Mathlib.Tactic.Linarith
import Mathlib.Tactic.Positivity
import Mathlib.Tactic.Ring
import Mathlib.Tactic.FieldSimp

/-!
# The value of a decimal

A finite decimal stands for a rational number. A coefficient with so many digits lies between two
powers of ten, which is all that rounding asks of it. The whole number nearest to a rational number
is taken with a tie going away from zero, so that it keeps order and sign.
-/

namespace CardPayments

namespace Decimal

/-- The rational number that a finite decimal stands for. The others stand for none. -/
def value : Decimal → ℚ
  | .finite negative coefficient exponent =>
    let magnitude : ℚ := coefficient * 10 ^ exponent
    if negative then -magnitude else magnitude
  | _ => 0

theorem abs_value (negative : Bool) (coefficient : Nat) (exponent : Int) :
    |(finite negative coefficient exponent).value| = coefficient * 10 ^ exponent := by
  have hnonneg : (0 : ℚ) ≤ coefficient * 10 ^ exponent := by positivity
  cases negative with
  | false => exact abs_of_nonneg hnonneg
  | true => exact (abs_neg _).trans (abs_of_nonneg hnonneg)

/-- Zeros at the end of the coefficient multiply the number. -/
theorem value_scaled (negative : Bool) (coefficient places : Nat) (exponent : Int) :
    (finite negative (coefficient * 10 ^ places) exponent).value =
      (finite negative coefficient exponent).value * 10 ^ places := by
  have hscaled : ((coefficient * 10 ^ places : Nat) : ℚ) * 10 ^ exponent =
      coefficient * 10 ^ exponent * 10 ^ places := by
    push_cast
    ring
  simp only [value, hscaled]
  split
  · exact (neg_mul _ _).symm
  · rfl

theorem value_zero (negative : Bool) (exponent : Int) : (finite negative 0 exponent).value = 0 := by
  rw [← abs_eq_zero, abs_value, Nat.cast_zero, zero_mul]

/-- Moving zeros between coefficient and exponent changes nothing. -/
theorem value_mul_pow (negative : Bool) (coefficient places : Nat) (exponent : Int) :
    (finite negative (coefficient * 10 ^ places) exponent).value =
      (finite negative coefficient (exponent + places)).value := by
  have hmove : ((coefficient * 10 ^ places : Nat) : ℚ) * 10 ^ exponent =
      coefficient * 10 ^ (exponent + places) := by
    rw [zpow_add₀ (by norm_num), zpow_natCast]
    push_cast
    ring
  simp only [value, hmove]

/-- A finite number of no more digits than the precision. -/
def IsShort : Decimal → Prop
  | .finite _ coefficient _ => width coefficient ≤ precision
  | _ => False

instance : DecidablePred IsShort := fun d => by
  cases d <;> unfold IsShort <;> infer_instance

/-! ## Digits -/

theorem width_pos (n : Nat) : 0 < width n := Nat.length_toDigits_pos

/-- A number has at most so many digits if it is less than the power of ten. -/
theorem width_le_iff {n k : Nat} (hk : 0 < k) : width n ≤ k ↔ n < 10 ^ k :=
  Nat.length_toDigits_le_iff (by decide) hk

theorem lt_pow_width (n : Nat) : n < 10 ^ width n := (width_le_iff (width_pos n)).1 le_rfl

/-- A positive number is no less than its leading digit's power of ten. -/
theorem pow_width_le {n : Nat} (hn : 0 < n) : 10 ^ (width n - 1) ≤ n := by
  by_contra h
  by_cases hone : width n = 1
  · rw [hone] at h
    exact h hn
  · have hlt : width n - 1 < width n := Nat.sub_lt (width_pos n) Nat.one_pos
    have hpos : 0 < width n - 1 := by have := width_pos n; omega
    exact absurd ((width_le_iff hpos).2 (not_le.1 h)) (not_le.2 hlt)

/-- Zeros at the end are digits. -/
theorem width_mul_pow {n : Nat} (hn : 0 < n) (p : Nat) : width (n * 10 ^ p) = width n + p := by
  have hpos := width_pos n
  apply le_antisymm
  · rw [width_le_iff (by omega), pow_add]
    exact Nat.mul_lt_mul_of_pos_right (lt_pow_width n) (by positivity)
  · by_contra h
    have hproduct := width_pos (n * 10 ^ p)
    have hlt : n * 10 ^ p < 10 ^ (width n + p - 1) :=
      (width_le_iff (by omega)).1 (by omega)
    have hsplit : width n + p - 1 = (width n - 1) + p := by omega
    rw [hsplit, pow_add] at hlt
    exact absurd (pow_width_le hn) (not_le.2 (lt_of_mul_lt_mul_right hlt (Nat.zero_le _)))

/-- A finite number is no less than its leading digit's power of ten. -/
theorem pow_adjusted_le {coefficient : Nat} (h : 0 < coefficient) (exponent : Int) :
    (10 : ℚ) ^ adjusted coefficient exponent ≤ coefficient * 10 ^ exponent := by
  have hlead : (10 : ℚ) ^ (width coefficient - 1) ≤ coefficient := by
    exact_mod_cast pow_width_le h
  have hadjusted : adjusted coefficient exponent = (width coefficient - 1 : Nat) + exponent := by
    have hpos := width_pos coefficient
    unfold adjusted
    omega
  rw [hadjusted, zpow_add₀ (by norm_num), zpow_natCast]
  exact mul_le_mul_of_nonneg_right hlead (by positivity)

/-- A finite number is less than the next power of ten. -/
theorem lt_pow_adjusted (coefficient : Nat) (exponent : Int) :
    (coefficient : ℚ) * 10 ^ exponent < 10 ^ (adjusted coefficient exponent + 1) := by
  have hwidth : (coefficient : ℚ) < 10 ^ width coefficient := by
    exact_mod_cast lt_pow_width coefficient
  have hadjusted : adjusted coefficient exponent + 1 = width coefficient + exponent := by
    unfold adjusted
    omega
  rw [hadjusted, zpow_add₀ (by norm_num), zpow_natCast]
  exact mul_lt_mul_of_pos_right hwidth (by positivity)

/-- A number whose leading digit stands behind the point and one place further is small. -/
theorem abs_value_lt_half {coefficient : Nat} {exponent : Int}
    (h : adjusted coefficient exponent + 1 ≤ -1) (negative : Bool) :
    |(finite negative coefficient exponent).value| < 1 / 2 := by
  have hbound : (10 : ℚ) ^ (adjusted coefficient exponent + 1) ≤ 10 ^ (-1 : ℤ) :=
    zpow_le_zpow_right₀ (by norm_num) h
  rw [abs_value]
  exact ((lt_pow_adjusted coefficient exponent).trans_le hbound).trans (by norm_num)

end Decimal

/-! ## The nearest whole number -/

/-- The whole number nearest to a rational number, a tie going away from zero. -/
def nearestWhole (x : ℚ) : ℤ := if x < 0 then -⌊-x + 1 / 2⌋ else ⌊x + 1 / 2⌋

theorem nearestWhole_of_nonneg {x : ℚ} (hx : 0 ≤ x) : nearestWhole x = ⌊x + 1 / 2⌋ :=
  if_neg (not_lt.2 hx)

/-- The nearest whole number of the opposite is the opposite. -/
theorem nearestWhole_neg (x : ℚ) : nearestWhole (-x) = -nearestWhole x := by
  unfold nearestWhole
  rcases lt_trichotomy x 0 with hx | rfl | hx
  · rw [if_neg (by linarith), if_pos hx, neg_neg]
  · norm_num
  · rw [if_pos (by linarith), if_neg (by linarith), neg_neg]

/-- A whole number is nearest to itself. -/
theorem nearestWhole_intCast (n : ℤ) : nearestWhole n = n := by
  have hfloor : ∀ m : ℤ, ⌊(m : ℚ) + 1 / 2⌋ = m := fun m => by
    rw [Int.floor_eq_iff]
    constructor <;> linarith
  unfold nearestWhole
  split
  · rw [← Int.cast_neg, hfloor, neg_neg]
  · exact hfloor n

/-- A smaller number has no greater nearest whole number. -/
theorem nearestWhole_mono {x y : ℚ} (h : x ≤ y) : nearestWhole x ≤ nearestWhole y := by
  unfold nearestWhole
  split <;> rename_i hx <;> split <;> rename_i hy
  · exact neg_le_neg (Int.floor_mono (by linarith))
  · have hleft : (0 : ℤ) ≤ ⌊-x + 1 / 2⌋ := Int.floor_nonneg.2 (by linarith)
    have hright : (0 : ℤ) ≤ ⌊y + 1 / 2⌋ := Int.floor_nonneg.2 (by linarith)
    omega
  · exact absurd (lt_of_le_of_lt h hy) hx
  · exact Int.floor_mono (by linarith)

/-- A number that is not negative has no negative nearest whole number. -/
theorem nearestWhole_nonneg {x : ℚ} (hx : 0 ≤ x) : 0 ≤ nearestWhole x := by
  rw [nearestWhole_of_nonneg hx]
  exact Int.floor_nonneg.2 (by linarith)

/-- A number below one half is nearest to zero. -/
theorem nearestWhole_eq_zero {x : ℚ} (h : |x| < 1 / 2) : nearestWhole x = 0 := by
  obtain ⟨hlower, hupper⟩ := abs_lt.1 h
  have hfloor : ∀ y : ℚ, 0 ≤ y → y < 1 / 2 → ⌊y + 1 / 2⌋ = 0 := fun y hy hlt => by
    rw [Int.floor_eq_iff]
    norm_num
    constructor <;> linarith
  unfold nearestWhole
  split
  · rw [hfloor (-x) (by linarith) (by linarith), neg_zero]
  · exact hfloor x (by linarith) hupper

/-- A number that reaches a whole one has a nearest whole number that reaches it. -/
theorem le_abs_nearestWhole {x : ℚ} {n : ℤ} (h : (n : ℚ) ≤ |x|) : n ≤ |nearestWhole x| := by
  rcases le_total 0 x with hx | hx
  · rw [abs_of_nonneg hx] at h
    have hle := nearestWhole_mono h
    rw [nearestWhole_intCast] at hle
    exact hle.trans (le_abs_self _)
  · rw [abs_of_nonpos hx] at h
    have hle := nearestWhole_mono h
    rw [nearestWhole_intCast, nearestWhole_neg] at hle
    exact hle.trans (neg_le_abs _)

namespace Decimal

/-- The whole number nearest to a finite decimal has its sign. -/
theorem nearestWhole_value (negative : Bool) (coefficient : Nat) (exponent : Int) :
    nearestWhole (finite negative coefficient exponent).value =
      if negative then -nearestWhole (coefficient * 10 ^ exponent)
      else nearestWhole (coefficient * 10 ^ exponent) := by
  cases negative with
  | false => rfl
  | true => exact nearestWhole_neg _

end Decimal

end CardPayments
