import CardPayments.Decimal.Rounding

/-!
# Double-precision numbers

A double is kept as sign, mantissa and power of two, so that every operation is exact arithmetic on
whole numbers: the nearest double of a quotient, the shortest decimal that reads back, and the
decimal with a given number of places.
-/

namespace CardPayments

/-- A double-precision number. A finite one stands for `± mantissa · 2 ^ exponent`. -/
inductive Binary64 where
  /-- A finite number. -/
  | finite (negative : Bool) (mantissa : Nat) (exponent : Int)
  /-- An infinity. -/
  | infinite (negative : Bool)
  /-- Not a number. -/
  | nan
  deriving DecidableEq, Repr, Inhabited

namespace Binary64

/-- The exponent of subnormal numbers, the least of all. -/
def leastExponent : Int := -1074

/-- The exponent of the largest numbers. -/
def greatestExponent : Int := 971

/-- A zero. -/
def zero (negative : Bool) : Binary64 := .finite negative 0 leastExponent

/-- A finite zero of either sign. -/
def isZero : Binary64 → Bool
  | .finite _ mantissa _ => mantissa == 0
  | _ => false

/-- A quotient divided by a power of two, as numerator and denominator. -/
def divideByPower (numerator denominator : Nat) (exponent : Int) : Nat × Nat :=
  if 0 ≤ exponent then (numerator, denominator * Nat.pow 2 exponent.toNat)
  else (numerator * Nat.pow 2 (-exponent).toNat, denominator)

/-- The exponent of the leading binary digit of a positive quotient. -/
def binaryExponent (numerator denominator : Nat) : Int :=
  let guess : Int := (Nat.log2 numerator : Int) - Nat.log2 denominator
  let (n, d) := divideByPower numerator denominator guess
  if d ≤ n then guess else guess - 1

/-- The double nearest to a quotient, a tie going to the even mantissa. -/
def nearest (negative : Bool) (numerator denominator : Nat) : Binary64 :=
  if numerator = 0 then zero negative
  else
    let exponent := max (binaryExponent numerator denominator - 52) leastExponent
    let (n, d) := divideByPower numerator denominator exponent
    let mantissa := roundDiv .toEven n d
    let (mantissa, exponent) :=
      if mantissa = Nat.pow 2 53 then (Nat.pow 2 52, exponent + 1) else (mantissa, exponent)
    if greatestExponent < exponent then .infinite negative
    else if mantissa = 0 then zero negative
    else .finite negative mantissa exponent

/-- The double nearest to `± coefficient · 10 ^ exponent`. Magnitudes beyond the range are decided
by the place of the leading digit alone. -/
def ofScaled (negative : Bool) (coefficient : Nat) (exponent : Int) : Binary64 :=
  let lead := Decimal.adjusted coefficient exponent
  if coefficient = 0 ∨ lead < -400 then zero negative
  else if 400 < lead then .infinite negative
  else if 0 ≤ exponent then nearest negative (coefficient * Nat.pow 10 exponent.toNat) 1
  else nearest negative coefficient (Nat.pow 10 (-exponent).toNat)

/-- The double nearest to a decimal. -/
def ofDecimal : Decimal → Binary64
  | .finite negative coefficient exponent => ofScaled negative coefficient exponent
  | .infinite negative => .infinite negative
  | .nan .. => .nan

/-- The magnitude of a finite double as a quotient. -/
def quotient (mantissa : Nat) (exponent : Int) : Nat × Nat := divideByPower mantissa 1 (-exponent)

/-- The exponent of the leading decimal digit of a positive quotient, searched downwards from a
bound that is no smaller. -/
def decimalExponent : (fuel : Nat) → (bound : Int) → Nat → Nat → Int
  | 0, bound, _, _ => bound
  | fuel + 1, bound, n, d =>
    let reached :=
      if 0 ≤ bound then d * Nat.pow 10 bound.toNat ≤ n else d ≤ n * Nat.pow 10 (-bound).toNat
    if reached then bound else decimalExponent fuel (bound - 1) n d

/-- Of the two neighbours of a quotient on the grid `10 ^ place`, the nearer one that reads back as
the double, if any does. A tie goes to the even one. -/
def neighbour? (mantissa : Nat) (exponent place : Int) : Option Nat :=
  let (n, d) := quotient mantissa exponent
  let (n, d) := if 0 ≤ place then (n, d * Nat.pow 10 place.toNat)
    else (n * Nat.pow 10 (-place).toNat, d)
  let below := n / d
  let closest := roundDiv .toEven n d
  let other := if closest = below then below + 1 else below
  [closest, other].find? fun digits =>
    ofScaled false digits place == .finite false mantissa exponent

/-- The fewest digits that read back, with the exponent of the last one; searched from `count`
digits on. -/
def shortestFrom (mantissa : Nat) (exponent lead : Int) : (fuel count : Nat) → Nat × Int
  | 0, count => ((neighbour? mantissa exponent (lead - count + 1)).getD 0, lead - count + 1)
  | fuel + 1, count =>
    match neighbour? mantissa exponent (lead - count + 1) with
    | some digits => (digits, lead - count + 1)
    | none => shortestFrom mantissa exponent lead fuel (count + 1)

/-- The fewest digits that read back as the double, with the exponent of the last one. Seventeen
are always enough. -/
def shortest (mantissa : Nat) (exponent : Int) : Nat × Int :=
  let (n, d) := quotient mantissa exponent
  let guess := (binaryExponent n d * 30103).fdiv 100000 + 1
  shortestFrom mantissa exponent (decimalExponent 4 guess n d) 17 1

/-- How a double is written: positional from `least` up to below `greatest`, with a digit on either
side of the point, otherwise scientific with at least two digits of exponent. -/
def writeDigits (digits : Nat) (exponent : Int) : List Char :=
  let (digits, exponent) := Decimal.stripZeros (Decimal.width digits) digits exponent
  let cs := Nat.toDigits 10 digits
  let point := exponent + cs.length
  if -4 < point ∧ point ≤ 16 then
    if point ≤ 0 then '0' :: '.' :: List.replicate (-point).toNat '0' ++ cs
    else if cs.length ≤ point then cs ++ List.replicate (point - cs.length).toNat '0' ++ ['.', '0']
    else cs.take point.toNat ++ '.' :: cs.drop point.toNat
  else
    let mantissa :=
      match cs with
      | d :: [] => [d]
      | d :: rest => d :: '.' :: rest
      | [] => []
    let power := Nat.toDigits 10 (point - 1).natAbs
    mantissa ++ 'e' :: (if point - 1 < 0 then '-' else '+') ::
      (if power.length < 2 then '0' :: power else power)

/-- A double as text, with as few digits as read back. -/
def text : Binary64 → String
  | .finite negative mantissa exponent =>
    let magnitude :=
      if mantissa = 0 then "0.0".toList
      else
        let (digits, place) := shortest mantissa exponent
        writeDigits digits place
    String.ofList (if negative then '-' :: magnitude else magnitude)
  | .infinite negative => if negative then "-inf" else "inf"
  | .nan => "nan"

/-- The decimal with `places` digits behind the point that is nearest to the double, a tie going to
the even digit. A zero loses its sign. -/
def toFixed (places : Nat) : Binary64 → Decimal
  | .finite negative mantissa exponent =>
    let (n, d) := quotient mantissa exponent
    .finite (negative && mantissa != 0) (roundDiv .toEven (n * Nat.pow 10 places) d) (-places)
  | .infinite negative => .infinite negative
  | .nan => .nan false false 0

/-- The whole number that a double stands for, if it stands for one. -/
def toInt? : Binary64 → Option Int
  | .finite negative mantissa exponent =>
    let (n, d) := quotient mantissa exponent
    if n % d = 0 then some (if negative then -((n / d : Nat) : Int) else (n / d : Nat)) else none
  | _ => none

/-- Whether two doubles are equal as numbers. A zero has no sign here, and a NaN equals nothing. -/
def equals (x y : Binary64) : Bool := x != .nan && (x == y || (x.isZero && y.isZero))

/-- Neither an infinity nor a NaN. -/
def isFinite : Binary64 → Bool
  | .finite .. => true
  | _ => false

end Binary64

end CardPayments
