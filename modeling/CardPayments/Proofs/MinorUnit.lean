import CardPayments.MinorUnit
import CardPayments.Proofs.Decimal.Rounding
import CardPayments.Proofs.Text.Case
import CardPayments.Text.Numeral

/-!
# Minor units and amounts

Turning an amount into minor units rounds once, half a unit away from zero, although it is rounded
to the precision on the way: a short amount times a power of ten is still exact. Minor units turned
into an amount and back are the same, or there is no result.
-/

namespace CardPayments.MinorUnit

open Decimal

theorem places_le (currency : String) : places currency ≤ 3 := by
  unfold places
  simp only
  split
  · exact le_rfl
  · split <;> omega

/-- Letter case does not matter. -/
theorem places_toUpper (currency : String) : places (Text.toUpper currency) = places currency := by
  unfold places
  rw [Text.toUpper_toUpper]

/-- A rational number rounded to so many decimal places, a tie going away from zero. -/
def roundedTo (places : Nat) (x : ℚ) : ℚ := nearestWhole (x * 10 ^ places) / 10 ^ places

/-- The two ways in which arithmetic on numbers fails. -/
def Fails {α : Type} (outcome : Except ArithmeticFault α) : Prop :=
  outcome = .error .overflow ∨ outcome = .error .invalidOperation

/-- Minor units of a short amount are the nearest whole number, unless they are too long. -/
theorem ofAmount_short {amount : Decimal} (short : amount.IsShort) (currency : String) :
    let units := nearestWhole (amount.value * 10 ^ places currency)
    (|units| < 10 ^ precision → ofAmount amount currency = .ok units) ∧
    (10 ^ precision ≤ |units| → Fails (ofAmount amount currency)) := by
  cases amount with
  | infinite => exact short.elim
  | nan => exact short.elim
  | finite negative coefficient exponent =>
    intro units
    have hplaces : places currency ≤ precision := (places_le currency).trans (by decide)
    have hunits : units =
        nearestWhole (finite negative (coefficient * 10 ^ places currency) exponent).value := by
      rw [value_scaled]
    have hscale : ofAmount (.finite negative coefficient exponent) currency =
        fit negative (coefficient * 10 ^ places currency) exponent >>= toInteger := rfl
    rcases fit_scaled negative short hplaces exponent with ⟨hfit, hlong⟩ | ⟨c, e, hfit, hvalue⟩
    · have hreach : (10 ^ precision : ℤ) ≤ |units| := by
        rw [hunits]
        exact le_abs_nearestWhole (by exact_mod_cast hlong)
      rw [hscale, hfit]
      exact ⟨fun hlt => absurd hreach (not_le.2 hlt), fun _ => Or.inl rfl⟩
    · have hnearest : nearestWhole (finite negative c e).value = units := by
        rw [hunits]
        rcases hvalue with hsame | ⟨hsmall, hexact⟩
        · rw [hsame]
        · rw [nearestWhole_eq_zero hsmall, nearestWhole_eq_zero hexact]
      have hinteger : ofAmount (.finite negative coefficient exponent) currency =
          if |units| < 10 ^ precision then .ok units else .error .invalidOperation := by
        rw [hscale, hfit, ← hnearest]
        exact toInteger_finite negative c e
      rw [hinteger]
      exact ⟨fun hlt => if_pos hlt, fun hle => Or.inr (if_neg (not_lt.2 hle))⟩

/-- Where a short amount has minor units, they are the nearest whole number. -/
theorem eq_nearest_of_ofAmount {amount : Decimal} (short : amount.IsShort) {currency : String}
    {units : Int} (h : ofAmount amount currency = .ok units) :
    units = nearestWhole (amount.value * 10 ^ places currency) ∧ |units| < 10 ^ precision := by
  obtain ⟨hfits, hlong⟩ := ofAmount_short short currency
  rcases lt_or_ge |nearestWhole (amount.value * 10 ^ places currency)| (10 ^ precision) with
    hlt | hge
  · obtain rfl := Except.ok.inj ((hfits hlt).symm.trans h)
    exact ⟨rfl, hlt⟩
  · rcases hlong hge with herror | herror <;> cases herror.symm.trans h

/-- Minor units that fit the precision are turned into an amount digit by digit. -/
theorem toAmount_short {units : Int} (h : |units| < 10 ^ precision) (currency : String) :
    toAmount units currency =
      .ok (.finite (units < 0) units.natAbs (-(places currency : Int))) := by
  have hplaces := places_le currency
  have hcoefficient : units.natAbs < 10 ^ precision := by
    zify
    exact h
  rcases Nat.eq_zero_or_pos units.natAbs with hzero | hpos
  · have hexponent : max leastExponent (min (-(places currency : Int)) maxAdjusted) =
        -(places currency : Int) := by
      unfold leastExponent maxAdjusted
      omega
    unfold toAmount ofScaledInt fit
    rw [if_pos hzero, hexponent, hzero]
  · have hwidth := (width_le_iff (by decide : 0 < precision)).2 hcoefficient
    have hkept : keptExponent units.natAbs (-(places currency : Int)) ≤
        -(places currency : Int) := by
      unfold keptExponent leastExponent
      omega
    unfold toAmount ofScaledInt
    rcases fit_cases (decide (units < 0)) hpos (-(places currency : Int)) with ⟨-, hover⟩ |
      ⟨hfit, -⟩ | ⟨-, hdrop, -⟩ | ⟨-, hdrop, -⟩
    · unfold fullExponent at hover
      omega
    · exact hfit
    · omega
    · omega

/-- Minor units of no more digits than a numeral may have are turned into an amount, which may have
lost digits. -/
theorem exists_toAmount {units : Int} (h : units.natAbs < 10 ^ Text.maxNumeralLength)
    (currency : String) : ∃ amount, toAmount units currency = .ok amount := by
  unfold toAmount ofScaledInt
  rcases Nat.eq_zero_or_pos units.natAbs with hzero | hpos
  · rw [hzero]
    exact ⟨_, rfl⟩
  · have hwidth := (width_le_iff (by decide : 0 < Text.maxNumeralLength)).2 h
    rcases fit_cases (decide (units < 0)) hpos (-(places currency : Int)) with ⟨-, hover⟩ |
      ⟨hfit, -⟩ | ⟨hfit, -⟩ | ⟨hfit, -⟩
    · unfold fullExponent precision at hover
      unfold Text.maxNumeralLength at hwidth
      omega
    all_goals exact ⟨_, hfit⟩

/-- Minor units are exactly the amount times the power of ten. -/
theorem value_ofUnits (units : Int) (places : Nat) :
    (finite (units < 0) units.natAbs (-(places : Int))).value = units / 10 ^ places := by
  have hpow : (units.natAbs : ℚ) * 10 ^ (-(places : ℤ)) = |(units : ℚ)| / 10 ^ places := by
    rw [zpow_neg, zpow_natCast, div_eq_mul_inv, Nat.cast_natAbs, Int.cast_abs]
  unfold value
  simp only [hpow, decide_eq_true_eq]
  split
  · rename_i hneg
    rw [abs_of_neg (by exact_mod_cast hneg)]
    ring
  · rename_i hnonneg
    rw [abs_of_nonneg (by exact_mod_cast not_lt.1 hnonneg)]

/-- An amount of whole minor units that fit the precision gives them back. -/
theorem ofAmount_ofUnits {units : Int} (h : |units| < 10 ^ precision) (currency : String) :
    ofAmount (.finite (units < 0) units.natAbs (-(places currency : Int))) currency =
      .ok units := by
  have short : (finite (units < 0) units.natAbs (-(places currency : Int))).IsShort := by
    refine (width_le_iff (by decide)).2 ?_
    zify
    exact h
  have hexact : (finite (units < 0) units.natAbs (-(places currency : Int))).value *
      10 ^ places currency = (units : ℚ) := by
    rw [value_ofUnits]
    field_simp
  have hfits := (ofAmount_short short currency).1
  rw [hexact, nearestWhole_intCast] at hfits
  exact hfits h

/-- Minor units that are too long have no amount, or one from which they do not come back. -/
theorem fails_of_long {units : Int} (h : 10 ^ precision ≤ |units|) (currency : String) :
    Fails (toAmount units currency >>= fun amount => ofAmount amount currency) := by
  have hplaces := places_le currency
  have hcoefficient : 10 ^ precision ≤ units.natAbs := by
    zify
    exact h
  unfold toAmount ofScaledInt
  cases hfit : fit (decide (units < 0)) units.natAbs (-(places currency : Int)) with
  | error fault =>
    rw [overflow_of_fit hfit]
    exact Or.inl rfl
  | ok amount =>
    have hvalue := pow_le_of_fit hcoefficient (by unfold precision; omega) hfit
    have hreach : ((10 ^ precision : ℤ) : ℚ) ≤ |amount.value * 10 ^ places currency| := by
      have hpow : (0 : ℚ) < 10 ^ places currency := by positivity
      rw [abs_mul, abs_of_pos hpow, ← div_le_iff₀ hpow]
      rw [zpow_add₀ (by norm_num), zpow_neg, zpow_natCast, zpow_natCast, ← div_eq_mul_inv] at hvalue
      rw [Int.cast_pow, Int.cast_ofNat]
      exact hvalue
    exact (ofAmount_short (isShort_of_fit hfit) currency).2 (le_abs_nearestWhole hreach)

/-- The minor units of a short amount are the amount times the power of ten of its currency, rounded
to a whole number with a tie going away from zero, unless they have more digits than the precision:
then there are none. So they keep order and sign, and as an amount again they are the amount rounded
to the places of the currency, which is the amount itself if it has no more of them. -/
theorem ofAmount_rounds_half_up {amount : Decimal} (short : amount.IsShort) (currency : String) :
    let exact := amount.value * 10 ^ places currency
    (|nearestWhole exact| < 10 ^ 28 → ofAmount amount currency = .ok (nearestWhole exact)) ∧
    (10 ^ 28 ≤ |nearestWhole exact| → Fails (ofAmount amount currency)) ∧
    ∀ units, ofAmount amount currency = .ok units →
      (∀ other more, other.IsShort → amount.value ≤ other.value →
        ofAmount other currency = .ok more → units ≤ more) ∧
      (∀ opposite, opposite.IsShort → opposite.value = -amount.value →
        ofAmount opposite currency = .ok (-units)) ∧
      ∃ back, toAmount units currency = .ok back ∧ back.isFinite ∧
        back.value = roundedTo (places currency) amount.value ∧
        ((∃ n : ℤ, exact = n) → back.value = amount.value) := by
  intro exact
  obtain ⟨hfits, hlong⟩ := ofAmount_short short currency
  refine ⟨hfits, hlong, fun units h => ?_⟩
  obtain ⟨hunits, hsize⟩ := eq_nearest_of_ofAmount short h
  refine ⟨fun other more hother hle hmore => ?_, fun opposite hopposite hvalue => ?_, ?_⟩
  · obtain ⟨hmore, -⟩ := eq_nearest_of_ofAmount hother hmore
    rw [hunits, hmore]
    exact nearestWhole_mono (mul_le_mul_of_nonneg_right hle (by positivity))
  · have hnearest : nearestWhole (opposite.value * 10 ^ places currency) = -units := by
      rw [hvalue, neg_mul, nearestWhole_neg, hunits]
    rw [← hnearest]
    refine (ofAmount_short hopposite currency).1 ?_
    rwa [hnearest, abs_neg]
  · refine ⟨_, toAmount_short hsize currency, rfl, ?_, fun ⟨n, hn⟩ => ?_⟩
    · rw [value_ofUnits, hunits]
      rfl
    · have hsame : units = n := by rw [hunits, ← nearestWhole_intCast n, ← hn]
      rw [value_ofUnits, hsame, ← hn]
      exact mul_div_cancel_right₀ _ (by positivity)

/-- Half a cent is rounded away from zero. -/
theorem ofAmount_rounds_half_up_negative :
    (finite true 1005 (-3)).IsShort ∧ ofAmount (.finite true 1005 (-3)) "eur" = .ok (-101) := by
  have short : (finite true 1005 (-3)).IsShort := by decide
  have hnearest : nearestWhole ((finite true 1005 (-3)).value * 10 ^ places "eur") = -101 := by
    decide +kernel
  refine ⟨short, ?_⟩
  rw [← hnearest]
  exact (ofAmount_rounds_half_up short "eur").1 (by rw [hnearest]; norm_num)

/-- Minor units that fit the precision become exactly the amount that they stand for, and come back
from it. Of longer ones there is no way there and back. -/
theorem units_survive_amount (currency : String) (units : Int) :
    (|units| < 10 ^ 28 → ∃ amount, toAmount units currency = .ok amount ∧ amount.isFinite ∧
      amount.value = units * 10 ^ (-(places currency : ℤ)) ∧
      ofAmount amount currency = .ok units) ∧
    (10 ^ 28 ≤ |units| →
      Fails (toAmount units currency >>= fun amount => ofAmount amount currency)) := by
  refine ⟨fun hsize => ⟨_, toAmount_short hsize currency, rfl, ?_,
    ofAmount_ofUnits hsize currency⟩, fun hlong => fails_of_long hlong currency⟩
  rw [value_ofUnits, zpow_neg, zpow_natCast, div_eq_mul_inv]

/-- The longest minor units come back from a currency of three places. -/
theorem units_survive_amount_longest :
    |(-9999999999999999999999999999 : ℤ)| < 10 ^ 28 ∧
    ∃ amount, toAmount (-9999999999999999999999999999) "kwd" = .ok amount ∧ amount.isFinite ∧
      amount.value = (-9999999999999999999999999999 : ℤ) * 10 ^ (-(places "kwd" : ℤ)) ∧
      ofAmount amount "kwd" = .ok (-9999999999999999999999999999) :=
  ⟨by norm_num, (units_survive_amount "kwd" (-9999999999999999999999999999)).1 (by norm_num)⟩

end CardPayments.MinorUnit
