import CardPayments.Decimal.Basic

/-!
# Decimal arithmetic with 28 digits

Results are rounded to 28 significant digits, a tie going to the even neighbour. A leading digit
beyond the exponent 999999 overflows; below -999999 digits are lost gradually. Rounding to a whole
number is a separate step whose ties go away from zero and which never drops significant digits
silently.
-/

namespace CardPayments

/-- Where a number halfway between its two neighbours goes. -/
inductive Tie where
  /-- To the even neighbour. -/
  | toEven
  /-- To the neighbour further from zero. -/
  | awayFromZero
  deriving DecidableEq, Repr

/-- The quotient of two natural numbers rounded to the nearest whole number. -/
def roundDiv (tie : Tie) (numerator denominator : Nat) : Nat :=
  let quotient := numerator / denominator
  let twice := 2 * (numerator % denominator)
  if twice < denominator then quotient
  else if denominator < twice then quotient + 1
  else
    match tie with
    | .toEven => quotient + quotient % 2
    | .awayFromZero => quotient + 1

/-- A rounded quotient is within half a unit of the exact one. -/
theorem roundDiv_near (tie : Tie) (n : Nat) {d : Nat} (hd : 0 < d) :
    2 * n ≤ (2 * roundDiv tie n d + 1) * d ∧ (2 * roundDiv tie n d) * d ≤ 2 * n + d := by
  have h := Nat.div_add_mod n d
  have hlt := Nat.mod_lt n hd
  have hq : ∀ q, (2 * q + 1) * d = 2 * (d * q) + d := fun q => by
    rw [Nat.add_mul, Nat.one_mul, Nat.mul_assoc, Nat.mul_comm q d]
  have hp : ∀ q, 2 * q * d = 2 * (d * q) := fun q => by rw [Nat.mul_assoc, Nat.mul_comm q d]
  have hs : d * (n / d + 1) = d * (n / d) + d := Nat.mul_succ ..
  unfold roundDiv
  simp only
  split
  · rw [hq, hp]; omega
  · split
    · rw [hq, hp, hs]; omega
    · cases tie with
      | toEven =>
        simp only
        rcases Nat.mod_two_eq_zero_or_one (n / d) with hm | hm <;> rw [hm]
        · simp only [Nat.add_zero, hq, hp]; omega
        · simp only [hq, hp, hs]; omega
      | awayFromZero => simp only; rw [hq, hp, hs]; omega

/-- Why an arithmetic operation has no result. -/
inductive ArithmeticFault where
  /-- The operation is not defined on its operands, or its result does not fit. -/
  | invalidOperation
  /-- The result is too large. -/
  | overflow
  /-- A NaN was to become a whole number. -/
  | nanAsInteger
  /-- A signaling NaN was to be found again by its value. -/
  | signalingNan
  deriving DecidableEq, Repr

namespace Decimal

/-- The number of significant digits of a result. -/
def precision : Nat := 28

/-- The largest exponent of the leading digit of a result. -/
def maxAdjusted : Int := 999999

/-- The least exponent of the last digit of a result. -/
def leastExponent : Int := -999999 - 27

/-- The largest exponent of the last digit of a result with full precision. -/
def fullExponent : Int := 999999 - 27

/-- Drops digits at the end of a coefficient. More digits than there are leave nothing. -/
def dropDigits (tie : Tie) (places coefficient : Nat) : Nat :=
  if width coefficient < places then 0 else roundDiv tie coefficient (Nat.pow 10 places)

/-- A result rounded to the precision. -/
def fit (negative : Bool) (coefficient : Nat) (exponent : Int) : Except ArithmeticFault Decimal :=
  if coefficient = 0 then
    .ok (.finite negative 0 (max leastExponent (min exponent maxAdjusted)))
  else
    let wanted := exponent + width coefficient - precision
    if fullExponent < wanted then .error .overflow
    else
      let least := max wanted leastExponent
      if least ≤ exponent then .ok (.finite negative coefficient exponent)
      else
        let rounded := dropDigits .toEven (least - exponent).toNat coefficient
        if width rounded ≤ precision then .ok (.finite negative rounded least)
        else if fullExponent < least + 1 then .error .overflow
        else .ok (.finite negative (rounded / 10) (least + 1))

/-- The product with a positive whole number. -/
def scale (factor : Nat) : Decimal → Except ArithmeticFault Decimal
  | .finite negative coefficient exponent => fit negative (coefficient * factor) exponent
  | .infinite negative => .ok (.infinite negative)
  | .nan negative signaling payload =>
    if signaling then .error .invalidOperation else .ok (.nan negative false payload)

/-- The nearest whole number, a tie going away from zero. Fails when it has more digits than the
precision. -/
def toInteger : Decimal → Except ArithmeticFault Int
  | .finite negative coefficient exponent =>
    if coefficient = 0 then .ok 0
    else if (precision : Int) < adjusted coefficient exponent + 1 then .error .invalidOperation
    else
      let whole :=
        if 0 ≤ exponent then coefficient * Nat.pow 10 exponent.toNat
        else dropDigits .awayFromZero (-exponent).toNat coefficient
      if precision < width whole then .error .invalidOperation
      else .ok (if negative then -(whole : Int) else whole)
  | .infinite _ => .error .invalidOperation
  | .nan _ signaling _ => .error (if signaling then .invalidOperation else .nanAsInteger)

/-- A whole number with the point moved to the left. -/
def ofScaledInt (n : Int) (places : Nat) : Except ArithmeticFault Decimal :=
  fit (n < 0) n.natAbs (-places)

end Decimal

end CardPayments
