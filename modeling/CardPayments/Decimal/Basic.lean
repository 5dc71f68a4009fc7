/-!
# Decimal numbers

A finite decimal keeps its sign, its coefficient and its exponent apart, so that `1.0` and `1.00`
are different numbers of one value. Infinities and the two kinds of not-a-number complete the type.
-/

namespace CardPayments

/-- A decimal number of any size and precision. -/
inductive Decimal where
  /-- The number `± coefficient · 10 ^ exponent`. -/
  | finite (negative : Bool) (coefficient : Nat) (exponent : Int)
  /-- An infinity. -/
  | infinite (negative : Bool)
  /-- Not a number; a signaling one fails in every operation. The payload is diagnostic. -/
  | nan (negative signaling : Bool) (payload : Nat)
  deriving DecidableEq, Repr, Inhabited

namespace Decimal

/-- How many decimal digits a coefficient has; zero has one. -/
def width (coefficient : Nat) : Nat := (Nat.toDigits 10 coefficient).length

/-- The whole number as a decimal. -/
def ofInt (n : Int) : Decimal := .finite (n < 0) n.natAbs 0

/-- The exponent of the leading digit. -/
def adjusted (coefficient : Nat) (exponent : Int) : Int := exponent + width coefficient - 1

/-- A finite number or an infinity, not a NaN. -/
def isNumber : Decimal → Bool
  | .nan .. => false
  | _ => true

/-- Neither an infinity nor a NaN. -/
def isFinite : Decimal → Bool
  | .finite .. => true
  | _ => false

/-- A NaN that fails in every operation. -/
def isSignaling : Decimal → Bool
  | .nan _ signaling _ => signaling
  | _ => false

/-- A zero of either sign and any exponent. -/
def isZero : Decimal → Bool
  | .finite _ coefficient _ => coefficient == 0
  | _ => false

/-- Less than zero, which a negative zero is not; unanswered for a NaN. -/
def isNegative? : Decimal → Option Bool
  | .finite negative coefficient _ => some (negative && coefficient != 0)
  | .infinite negative => some negative
  | .nan .. => none

/-- Moves zeros at the end of a coefficient into the exponent, at most `fuel` of them. -/
def stripZeros : (fuel : Nat) → Nat → Int → Nat × Int
  | 0, coefficient, exponent => (coefficient, exponent)
  | fuel + 1, coefficient, exponent =>
    if coefficient % 10 = 0 then stripZeros fuel (coefficient / 10) (exponent + 1)
    else (coefficient, exponent)

/-- The one form of each value: no zeros at the end, zero itself without sign. -/
def canonical : Decimal → Decimal
  | .finite negative coefficient exponent =>
    if coefficient = 0 then .finite false 0 0
    else
      let (c, e) := stripZeros (width coefficient) coefficient exponent
      .finite negative c e
  | d => d

/-- Equality of value. A NaN equals nothing. -/
def sameValue (a b : Decimal) : Bool :=
  a.isNumber && b.isNumber && a.canonical == b.canonical

end Decimal

end CardPayments
