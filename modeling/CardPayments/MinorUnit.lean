import CardPayments.Decimal.Rounding
import CardPayments.Text.Case

/-!
# Minor units

The gateway counts money in the smallest unit of its currency. Most currencies have two decimal
places; the others are listed. Letter case does not matter.
-/

namespace CardPayments.MinorUnit

/-- The currencies with three decimal places. -/
def threePlaces : List String := ["BHD", "JOD", "KWD", "LYD", "OMR", "TND"]

/-- The currencies without decimal places. -/
def noPlaces : List String :=
  ["CVE", "DJF", "GNF", "IDR", "JPY", "KMF", "KRW", "PYG", "RWF", "UGX", "VND", "VUV", "XAF",
    "XOF", "XPF"]

/-- The decimal places of a currency. -/
def places (currency : String) : Nat :=
  let code := Text.toUpper currency
  if threePlaces.contains code then 3 else if noPlaces.contains code then 0 else 2

/-- The minor units nearest to an amount, half a unit going away from zero. -/
def ofAmount (amount : Decimal) (currency : String) : Except ArithmeticFault Int := do
  let scaled ← amount.scale (Nat.pow 10 (places currency))
  scaled.toInteger

/-- The amount that minor units stand for. -/
def toAmount (units : Int) (currency : String) : Except ArithmeticFault Decimal :=
  Decimal.ofScaledInt units (places currency)

end CardPayments.MinorUnit
