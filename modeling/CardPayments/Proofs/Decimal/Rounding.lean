import CardPayments.Proofs.Decimal.Value

/-!
# Rounding to the precision and to whole numbers

Rounding to the precision drops digits only where there are more of them than the precision holds,
so a short coefficient survives being scaled by a power of ten. Where the exponent is so small that
digits are lost all the same, the number was next to zero and stays there. Rounding to a whole
number gives the nearest one, or fails because it is too long.
-/

namespace CardPayments

/-- A quotient rounded away from zero on a tie is nearest to the exact one. -/
theorem roundDiv_awayFromZero (n : Nat) {d : Nat} (hd : 0 < d) :
    (roundDiv .awayFromZero n d : ℤ) = nearestWhole ((n : ℚ) / d) := by
  have hd' : (0 : ℚ) < d := by exact_mod_cast hd
  have hsplit : d * (n / d) + n % d = n := Nat.div_add_mod n d
  have hexact : (n : ℚ) = d * (n / d : Nat) + (n % d : Nat) := by exact_mod_cast hsplit.symm
  have hquotient : (n : ℚ) / d = (n / d : Nat) + (n % d : Nat) / d := by
    rw [hexact]
    field_simp
  have hlt : ((n % d : Nat) : ℚ) / d < 1 := by
    rw [div_lt_one hd']
    exact_mod_cast Nat.mod_lt n hd
  have hnonneg : (0 : ℚ) ≤ ((n % d : Nat) : ℚ) / d := by positivity
  rw [nearestWhole_of_nonneg (by positivity), hquotient, eq_comm, Int.floor_eq_iff,
    Int.cast_natCast]
  unfold roundDiv
  simp only
  split
  · rename_i hbelow
    have hhalf : ((n % d : Nat) : ℚ) / d < 1 / 2 := by
      rw [div_lt_div_iff₀ hd' (by norm_num)]
      exact_mod_cast (by omega : n % d * 2 < 1 * d)
    constructor <;> linarith
  · rename_i hbelow
    have hhalf : 1 / 2 ≤ ((n % d : Nat) : ℚ) / d := by
      rw [div_le_div_iff₀ (by norm_num) hd']
      exact_mod_cast (by omega : 1 * d ≤ n % d * 2)
    rw [ite_self, Nat.cast_succ]
    constructor <;> linarith

/-- A rounded quotient does not exceed what is divided. -/
theorem roundDiv_le (tie : Tie) (n : Nat) {d : Nat} (hd : 1 < d) : roundDiv tie n d ≤ n := by
  have hnear := (roundDiv_near tie n (Nat.lt_of_succ_lt hd)).2
  by_contra h
  have hmore : (2 * (n + 1)) * d ≤ 2 * roundDiv tie n d * d :=
    Nat.mul_le_mul_right d (by omega)
  nlinarith

/-- An exact quotient is not rounded. -/
theorem roundDiv_mul (tie : Tie) (q : Nat) {d : Nat} (hd : 0 < d) : roundDiv tie (q * d) d = q := by
  simp [roundDiv, Nat.mul_div_cancel _ hd, hd]

namespace Decimal

/-! ## Dropping digits -/

/-- Dropping digits does not make a number longer. -/
theorem dropDigits_le (tie : Tie) {places : Nat} (hplaces : 0 < places) (n : Nat) :
    dropDigits tie places n ≤ n := by
  unfold dropDigits
  split
  · exact Nat.zero_le n
  · exact roundDiv_le tie n (Nat.one_lt_pow hplaces.ne' (by norm_num))

/-- What is left of a number that reaches a power of ten reaches what is left of the power. -/
theorem pow_le_dropDigits (tie : Tie) {n m places : Nat} (h : 10 ^ (m + places) ≤ n) :
    10 ^ m ≤ dropDigits tie places n := by
  have hlong : ¬ width n < places := fun hshort => by
    have hlt := (lt_pow_width n).trans_le (Nat.pow_le_pow_right (by norm_num) hshort.le)
    exact absurd (h.trans_lt hlt)
      (not_lt.2 (Nat.pow_le_pow_right (by norm_num) (Nat.le_add_left places m)))
  unfold dropDigits
  rw [if_neg hlong]
  have hpos : 0 < 10 ^ places := by positivity
  have hnear := (roundDiv_near tie n hpos).1
  have hmul : 2 * 10 ^ m * 10 ^ places ≤ (2 * roundDiv tie n (10 ^ places) + 1) * 10 ^ places := by
    rw [mul_assoc, ← pow_add]
    omega
  have hle := Nat.le_of_mul_le_mul_right hmul hpos
  change 10 ^ m ≤ roundDiv tie n (10 ^ places)
  omega

/-- What is left of a number below a power of ten is at most what is left of the power. -/
theorem dropDigits_le_pow (tie : Tie) {n m places : Nat} (h : n < 10 ^ (m + places)) :
    dropDigits tie places n ≤ 10 ^ m := by
  unfold dropDigits
  split
  · exact Nat.zero_le _
  have hpos : 0 < 10 ^ places := by positivity
  have hnear := (roundDiv_near tie n hpos).2
  have hmul : 2 * roundDiv tie n (10 ^ places) * 10 ^ places < (2 * 10 ^ m + 1) * 10 ^ places := by
    rw [Nat.add_mul, mul_assoc 2 (10 ^ m), ← pow_add]
    omega
  have hlt := lt_of_mul_lt_mul_right hmul (Nat.zero_le _)
  change roundDiv tie n (10 ^ places) ≤ 10 ^ m
  omega

/-- Dropping zeros leaves the other digits as they are. -/
theorem dropDigits_mul_pow (tie : Tie) {n : Nat} (hn : 0 < n) {places zeros : Nat}
    (h : places ≤ zeros) : dropDigits tie places (n * 10 ^ zeros) = n * 10 ^ (zeros - places) := by
  have hsplit : n * 10 ^ zeros = n * 10 ^ (zeros - places) * 10 ^ places := by
    rw [mul_assoc, ← pow_add, Nat.sub_add_cancel h]
  unfold dropDigits
  rw [width_mul_pow hn, if_neg (by omega), hsplit]
  exact roundDiv_mul tie _ (by positivity)

/-- Dropping the digits behind the point leaves the nearest whole number. -/
theorem dropDigits_awayFromZero (places n : Nat) :
    (dropDigits .awayFromZero places n : ℤ) = nearestWhole ((n : ℚ) / 10 ^ places) := by
  unfold dropDigits
  split
  · rename_i hshort
    have hlt : n * 10 < 10 ^ places := calc
      n * 10 < 10 ^ width n * 10 := Nat.mul_lt_mul_of_pos_right (lt_pow_width n) (by norm_num)
      _ = 10 ^ (width n + 1) := (pow_succ 10 (width n)).symm
      _ ≤ 10 ^ places := Nat.pow_le_pow_right (by norm_num) hshort
    have hsmall : (n : ℚ) / 10 ^ places < 1 / 2 := by
      rw [div_lt_div_iff₀ (by positivity) (by norm_num)]
      exact_mod_cast (by omega : n * 2 < 1 * 10 ^ places)
    have hnonneg : (0 : ℚ) ≤ n / 10 ^ places := by positivity
    rw [nearestWhole_eq_zero (by rwa [abs_of_nonneg hnonneg])]
    rfl
  · have hcast : ((Nat.pow 10 places : Nat) : ℚ) = 10 ^ places := by exact_mod_cast rfl
    have hpos : 0 < Nat.pow 10 places := Nat.pow_pos (by norm_num)
    rw [roundDiv_awayFromZero n hpos, hcast]

/-! ## Whole numbers -/

/-- The digits before the point are the nearest whole number. -/
theorem whole_eq_nearest (n : Nat) (exponent : Int) :
    ((if 0 ≤ exponent then n * Nat.pow 10 exponent.toNat
      else dropDigits .awayFromZero (-exponent).toNat n : Nat) : ℤ) =
        nearestWhole (n * 10 ^ exponent) := by
  split
  · rename_i hexponent
    obtain ⟨k, rfl⟩ := Int.eq_ofNat_of_zero_le hexponent
    have hcast : ((n : ℚ) * 10 ^ (k : ℤ)) = ((n * 10 ^ k : Nat) : ℤ) := by
      rw [zpow_natCast]
      push_cast
      rfl
    rw [hcast, nearestWhole_intCast]
    rfl
  · rename_i hexponent
    obtain ⟨k, hk⟩ := Int.eq_ofNat_of_zero_le (show 0 ≤ -exponent by omega)
    obtain rfl : exponent = -(k : ℤ) := by omega
    rw [dropDigits_awayFromZero, neg_neg, Int.toNat_natCast, zpow_neg, zpow_natCast,
      div_eq_mul_inv]

/-- The nearest whole number is found unless it is longer than the precision. -/
theorem toInteger_finite (negative : Bool) (coefficient : Nat) (exponent : Int) :
    toInteger (.finite negative coefficient exponent) =
      let units := nearestWhole (finite negative coefficient exponent).value
      if |units| < 10 ^ precision then .ok units else .error .invalidOperation := by
  have hnonneg : (0 : ℚ) ≤ coefficient * 10 ^ exponent := by positivity
  have habs : |nearestWhole (finite negative coefficient exponent).value| =
      nearestWhole (coefficient * 10 ^ exponent) := by
    have hwhole := nearestWhole_nonneg hnonneg
    rw [nearestWhole_value]
    split
    · rw [abs_neg, abs_of_nonneg hwhole]
    · exact abs_of_nonneg hwhole
  simp only [habs]
  unfold toInteger
  simp only
  by_cases hzero : coefficient = 0
  · rw [if_pos hzero, hzero]
    have hnone : nearestWhole 0 = 0 := nearestWhole_intCast 0
    rw [value_zero, Nat.cast_zero, zero_mul, hnone, if_pos (by positivity)]
  · rw [if_neg hzero]
    have hpos : 0 < coefficient := Nat.pos_of_ne_zero hzero
    by_cases hlong : (precision : Int) < adjusted coefficient exponent + 1
    · -- the number reaches the power of ten that is too long already
      have hreach : ((10 ^ precision : ℤ) : ℚ) ≤ coefficient * 10 ^ exponent := by
        have hlead := pow_adjusted_le hpos exponent
        have hmono : (10 : ℚ) ^ (precision : ℤ) ≤ 10 ^ adjusted coefficient exponent :=
          zpow_le_zpow_right₀ (by norm_num) (by omega)
        rw [zpow_natCast] at hmono
        push_cast
        exact hmono.trans hlead
      have hunits := nearestWhole_mono hreach
      rw [nearestWhole_intCast] at hunits
      rw [if_pos hlong, if_neg (not_lt.2 hunits)]
    · rw [if_neg hlong, nearestWhole_value, ← whole_eq_nearest]
      generalize (if 0 ≤ exponent then coefficient * Nat.pow 10 exponent.toNat
        else dropDigits .awayFromZero (-exponent).toNat coefficient : Nat) = whole
      have hwidth : width whole ≤ precision ↔ whole < 10 ^ precision := width_le_iff (by decide)
      by_cases hfits : whole < 10 ^ precision
      · have hunits : (whole : ℤ) < 10 ^ precision := by exact_mod_cast hfits
        rw [if_neg (not_lt.2 (hwidth.2 hfits)), if_pos hunits]
      · have hunits : ¬ (whole : ℤ) < 10 ^ precision := by exact_mod_cast hfits
        rw [if_pos (not_le.1 (mt hwidth.1 hfits)), if_neg hunits]

/-! ## The precision -/

/-- The exponent of the last digit that a result of the precision keeps. -/
def keptExponent (coefficient : Nat) (exponent : Int) : Int :=
  max (exponent + width coefficient - precision) leastExponent

/-- What rounding to the precision can come to: an overflow, the number as it is, or the number
without its last digits, of which a carry may drop one more. -/
theorem fit_cases (negative : Bool) {coefficient : Nat} (hpos : 0 < coefficient) (exponent : Int) :
    let kept := keptExponent coefficient exponent
    let rounded := dropDigits .toEven (kept - exponent).toNat coefficient
    fit negative coefficient exponent = .error .overflow ∧
        fullExponent ≤ exponent + width coefficient - precision ∨
      fit negative coefficient exponent = .ok (.finite negative coefficient exponent) ∧
        kept ≤ exponent ∨
      fit negative coefficient exponent = .ok (.finite negative rounded kept) ∧
        exponent < kept ∧ width rounded ≤ precision ∨
      fit negative coefficient exponent = .ok (.finite negative (rounded / 10) (kept + 1)) ∧
        exponent < kept ∧ precision < width rounded := by
  have hfull : leastExponent + 1 ≤ fullExponent := by decide
  unfold fit keptExponent
  simp only
  rw [if_neg hpos.ne']
  split
  · rename_i hover
    exact Or.inl ⟨rfl, hover.le⟩
  split
  · rename_i hkept
    exact Or.inr (Or.inl ⟨rfl, hkept⟩)
  rename_i hdrop
  split
  · rename_i hwidth
    exact Or.inr (Or.inr (Or.inl ⟨rfl, not_le.1 hdrop, hwidth⟩))
  rename_i hwidth
  split
  · rename_i hover
    exact Or.inl ⟨rfl, by omega⟩
  · exact Or.inr (Or.inr (Or.inr ⟨rfl, not_le.1 hdrop, not_le.1 hwidth⟩))

/-- A number that overflows is too long for a whole number. -/
theorem pow_precision_le_of_overflow (negative : Bool) {coefficient : Nat} (hpos : 0 < coefficient)
    {exponent : Int} (h : fullExponent ≤ exponent + width coefficient - precision) :
    10 ^ precision ≤ |(finite negative coefficient exponent).value| := by
  have hlead : (precision : ℤ) ≤ adjusted coefficient exponent := by
    unfold adjusted fullExponent precision at *
    omega
  have hmono : (10 : ℚ) ^ (precision : ℤ) ≤ 10 ^ adjusted coefficient exponent :=
    zpow_le_zpow_right₀ (by norm_num) hlead
  rw [abs_value, ← zpow_natCast]
  exact hmono.trans (pow_adjusted_le hpos exponent)

/-- A coefficient that is cut at the least exponent belongs to a number next to zero. -/
theorem abs_value_lt_half_of_least (negative : Bool) {coefficient : Nat} {exponent : Int}
    (hwidth : width coefficient ≤ 2 * precision) (hexponent : exponent ≤ leastExponent + 1) :
    |(finite negative coefficient exponent).value| < 1 / 2 := by
  refine abs_value_lt_half ?_ negative
  unfold adjusted leastExponent precision at *
  omega

/-- A smaller number is no longer. -/
theorem width_mono {m n : Nat} (h : m ≤ n) : width m ≤ width n :=
  (width_le_iff (width_pos n)).2 (h.trans_lt (lt_pow_width n))

/-- Rounding to the precision fails in one way. -/
theorem overflow_of_fit {negative : Bool} {coefficient : Nat} {exponent : Int}
    {fault : ArithmeticFault} (h : fit negative coefficient exponent = .error fault) :
    fault = .overflow := by
  rcases Nat.eq_zero_or_pos coefficient with rfl | hpos
  · cases h
  rcases fit_cases negative hpos exponent with ⟨hfit, -⟩ | ⟨hfit, -⟩ | ⟨hfit, -⟩ | ⟨hfit, -⟩
  · exact (Except.error.inj (hfit.symm.trans h)).symm
  all_goals cases hfit.symm.trans h

/-- A result has no more digits than the precision. -/
theorem isShort_of_fit {negative : Bool} {coefficient : Nat} {exponent : Int} {d : Decimal}
    (h : fit negative coefficient exponent = .ok d) : d.IsShort := by
  rcases Nat.eq_zero_or_pos coefficient with rfl | hpos
  · obtain rfl := Except.ok.inj h
    exact (width_le_iff (by decide)).2 (by positivity)
  have hkept : exponent + width coefficient - precision ≤ keptExponent coefficient exponent :=
    le_max_left ..
  rcases fit_cases negative hpos exponent with ⟨hfit, -⟩ | ⟨hfit, hle⟩ | ⟨hfit, -, hwidth⟩ |
    ⟨hfit, hdrop, -⟩
  · rw [hfit] at h
    cases h
  · obtain rfl := Except.ok.inj (hfit.symm.trans h)
    exact (by omega : width coefficient ≤ precision)
  · obtain rfl := Except.ok.inj (hfit.symm.trans h)
    exact hwidth
  · obtain rfl := Except.ok.inj (hfit.symm.trans h)
    -- a carry leaves a power of ten, which is one digit longer than the precision
    have hlt : coefficient <
        10 ^ (precision + (keptExponent coefficient exponent - exponent).toNat) :=
      (lt_pow_width coefficient).trans_le (Nat.pow_le_pow_right (by norm_num) (by omega))
    have hle := dropDigits_le_pow .toEven hlt
    refine (width_le_iff (by decide)).2 ?_
    unfold precision at *
    omega

/-- A number of whole digits only that is too long for the precision is still too long after it has
been rounded to it, unless it overflows. -/
theorem pow_le_of_fit {negative : Bool} {coefficient : Nat} {exponent : Int} {d : Decimal}
    (hlong : 10 ^ precision ≤ coefficient) (hexponent : -precision ≤ exponent)
    (h : fit negative coefficient exponent = .ok d) :
    (10 : ℚ) ^ (precision + exponent) ≤ |d.value| := by
  have hpos : 0 < coefficient := lt_of_lt_of_le (by positivity) hlong
  have hwidth : precision < width coefficient :=
    not_le.1 (mt (width_le_iff (by decide)).1 (not_lt.2 hlong))
  have hkept : keptExponent coefficient exponent =
      exponent + width coefficient - precision := by
    refine max_eq_left ?_
    unfold leastExponent precision at *
    omega
  have hsplit : precision - 1 + (keptExponent coefficient exponent - exponent).toNat =
      width coefficient - 1 := by
    unfold precision at *
    omega
  have hrounded := pow_le_dropDigits .toEven (hsplit ▸ pow_width_le hpos)
  -- the exponent has grown by as many digits as were dropped
  have hreach : ∀ {c : Nat} {e : Int}, 10 ^ (precision - 1) ≤ c → exponent + 1 ≤ e →
      (10 : ℚ) ^ (precision + exponent) ≤ |(finite negative c e).value| := fun {c e} hc he => by
    have hc' : (10 : ℚ) ^ (precision - 1) ≤ c := by exact_mod_cast hc
    calc (10 : ℚ) ^ (precision + exponent) ≤ 10 ^ ((precision - 1 : Nat) + e) :=
          zpow_le_zpow_right₀ (by norm_num) (by unfold precision; omega)
      _ = 10 ^ (precision - 1) * 10 ^ e := by rw [zpow_add₀ (by norm_num), zpow_natCast]
      _ ≤ c * 10 ^ e := mul_le_mul_of_nonneg_right hc' (by positivity)
      _ = _ := (abs_value ..).symm
  rcases fit_cases negative hpos exponent with ⟨hfit, -⟩ | ⟨-, hle⟩ | ⟨hfit, -, -⟩ |
    ⟨hfit, -, hcarry⟩
  · rw [hfit] at h
    cases h
  · omega
  · obtain rfl := Except.ok.inj (hfit.symm.trans h)
    exact hreach hrounded (by omega)
  · obtain rfl := Except.ok.inj (hfit.symm.trans h)
    refine hreach ?_ (by omega)
    have hpow := mt (width_le_iff (by decide)).2 (not_le.2 hcarry)
    unfold precision at *
    omega

/-- Where the least exponent is not reached, a short coefficient times a power of ten is fitted
without loss: the digits that are dropped are among the zeros. -/
theorem fit_scaled_of_normal (negative : Bool) {coefficient : Nat} (hpos : 0 < coefficient)
    (short : width coefficient ≤ precision) {zeros : Nat} {exponent : Int}
    (hnormal : leastExponent ≤ exponent + width (coefficient * 10 ^ zeros) - precision) :
    let exact := (finite negative (coefficient * 10 ^ zeros) exponent).value
    fit negative (coefficient * 10 ^ zeros) exponent = .error .overflow ∧
        10 ^ precision ≤ |exact| ∨
      ∃ c e, fit negative (coefficient * 10 ^ zeros) exponent = .ok (.finite negative c e) ∧
        (finite negative c e).value = exact := by
  intro exact
  have hproduct : 0 < coefficient * 10 ^ zeros := by positivity
  have hwidth : width (coefficient * 10 ^ zeros) = width coefficient + zeros :=
    width_mul_pow hpos zeros
  have hkept : keptExponent (coefficient * 10 ^ zeros) exponent =
      exponent + width (coefficient * 10 ^ zeros) - precision := max_eq_left hnormal
  have hrounded : exponent < keptExponent (coefficient * 10 ^ zeros) exponent →
      dropDigits .toEven (keptExponent (coefficient * 10 ^ zeros) exponent - exponent).toNat
        (coefficient * 10 ^ zeros) =
          coefficient * 10 ^ (precision - width coefficient) := fun hdrop => by
    rw [dropDigits_mul_pow _ hpos (by omega)]
    congr 2
    omega
  rcases fit_cases negative hproduct exponent with ⟨hfit, hover⟩ | ⟨hfit, -⟩ |
    ⟨hfit, hdrop, -⟩ | ⟨-, hdrop, hlong⟩
  · exact Or.inl ⟨hfit, pow_precision_le_of_overflow negative hproduct hover⟩
  · exact Or.inr ⟨_, _, hfit, rfl⟩
  · refine Or.inr ⟨_, _, hfit, ?_⟩
    rw [hrounded hdrop]
    simp only [exact, value_mul_pow]
    congr 2
    omega
  · rw [hrounded hdrop, width_mul_pow hpos] at hlong
    omega

/-- Where digits are lost below the least exponent, the number is tiny before and after. -/
theorem fit_of_small (negative : Bool) {product : Nat} (hproduct : 0 < product)
    (hwidth : width product ≤ 2 * precision) {exponent : Int}
    (hsmall : exponent + width product - precision < leastExponent) :
    let exact := (finite negative product exponent).value
    fit negative product exponent = .error .overflow ∧ 10 ^ precision ≤ |exact| ∨
      ∃ c e, fit negative product exponent = .ok (.finite negative c e) ∧
        ((finite negative c e).value = exact ∨
          |(finite negative c e).value| < 1 / 2 ∧ |exact| < 1 / 2) := by
  intro exact
  have hkept : keptExponent product exponent = leastExponent := max_eq_right hsmall.le
  have hexact : |exact| < 1 / 2 := by
    refine abs_value_lt_half ?_ negative
    unfold adjusted leastExponent precision at *
    omega
  have hless : exponent < leastExponent →
      dropDigits .toEven (leastExponent - exponent).toNat product ≤ product :=
    fun hdrop => dropDigits_le _ (by omega) _
  rcases fit_cases negative hproduct exponent with ⟨hfit, hover⟩ | ⟨hfit, -⟩ |
    ⟨hfit, hdrop, -⟩ | ⟨hfit, hdrop, -⟩
  · exact Or.inl ⟨hfit, pow_precision_le_of_overflow negative hproduct hover⟩
  · exact Or.inr ⟨_, _, hfit, Or.inl rfl⟩
  · rw [hkept] at hfit hdrop
    refine Or.inr ⟨_, _, hfit, Or.inr ⟨abs_value_lt_half_of_least negative ?_ (by omega), hexact⟩⟩
    have := width_mono (hless hdrop)
    omega
  · rw [hkept] at hfit hdrop
    refine Or.inr ⟨_, _, hfit, Or.inr ⟨abs_value_lt_half_of_least negative ?_ (by omega), hexact⟩⟩
    have := width_mono ((Nat.div_le_self _ 10).trans (hless hdrop))
    omega

/-- A short coefficient, with a few zeros at its end, is not changed by rounding to the precision:
either the number is too large, or only digits of a number next to zero are lost. -/
theorem fit_scaled (negative : Bool) {coefficient : Nat} (short : width coefficient ≤ precision)
    {zeros : Nat} (hzeros : zeros ≤ precision) (exponent : Int) :
    let exact := (finite negative (coefficient * 10 ^ zeros) exponent).value
    fit negative (coefficient * 10 ^ zeros) exponent = .error .overflow ∧
        10 ^ precision ≤ |exact| ∨
      ∃ c e, fit negative (coefficient * 10 ^ zeros) exponent = .ok (.finite negative c e) ∧
        ((finite negative c e).value = exact ∨
          |(finite negative c e).value| < 1 / 2 ∧ |exact| < 1 / 2) := by
  intro exact
  rcases Nat.eq_zero_or_pos coefficient with rfl | hpos
  · refine Or.inr ⟨0, _, by rw [Nat.zero_mul]; rfl, Or.inl ?_⟩
    rw [value_zero]
    exact (Nat.zero_mul (10 ^ zeros) ▸ value_zero negative exponent).symm
  · rcases le_or_gt leastExponent (exponent + width (coefficient * 10 ^ zeros) - precision)
      with hnormal | hsmall
    · rcases fit_scaled_of_normal negative hpos short hnormal with hover | ⟨c, e, hfit, hvalue⟩
      · exact Or.inl hover
      · exact Or.inr ⟨c, e, hfit, Or.inl hvalue⟩
    · have hwidth : width (coefficient * 10 ^ zeros) ≤ 2 * precision := by
        rw [width_mul_pow hpos]
        omega
      exact fit_of_small negative (by positivity) hwidth hsmall

end Decimal

end CardPayments
