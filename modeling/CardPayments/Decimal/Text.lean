import CardPayments.Decimal.Basic
import CardPayments.Text.Blank
import CardPayments.Text.Digit
import CardPayments.Text.Numeral

/-!
# Decimal numbers as text

Reading is exact and admits blanks around the numeral, low lines anywhere and the digits of every
script. Printing is positional while the exponent is not positive and the leading digit stands no
further than six places behind the point, and scientific otherwise; it keeps every digit.
-/

namespace CardPayments.Decimal

/-- The largest exponent of a leading digit that is read. -/
def maxExponent : Int := 999999999999999999

/-- The least exponent of a last digit that is read. -/
def minExponent : Int := -1999999999999999997

/-- The text with blanks around it and low lines removed, digits in ASCII and other blanks as
spaces; `none` when it holds anything else beyond ASCII. -/
def normalized (s : String) : Option (List Char) :=
  ((Text.strip Text.isBlank s.toList).filter (· != '_')).mapM fun c =>
    if c.toNat < 0x80 then (if c.toNat = 0 then none else some c)
    else if Text.isBlank c then some ' '
    else (Text.digitValue? c).map Nat.digitChar

/-- The value of a run of ASCII digits. -/
def digitsValue (cs : List Char) : Nat := Nat.ofDigitChars 10 cs 0

/-- Reads the exponent part: nothing, or the letter E, a sign and digits. -/
def readExponent : List Char → Option Int
  | [] => some 0
  | e :: rest =>
    if e = 'e' ∨ e = 'E' then
      let (negative, digits) := Text.splitSign rest
      if digits ≠ [] ∧ digits.all Char.isDigit then
        some (Text.signed negative (digitsValue digits))
      else none
    else none

/-- Reads digits with an optional point among them, and an exponent part. -/
def readFinite (negative : Bool) (cs : List Char) : Option Decimal :=
  let whole := cs.takeWhile Char.isDigit
  let afterWhole := cs.dropWhile Char.isDigit
  let (fraction, afterFraction) :=
    match afterWhole with
    | '.' :: rest => (rest.takeWhile Char.isDigit, rest.dropWhile Char.isDigit)
    | rest => ([], rest)
  if whole = [] ∧ fraction = [] then none
  else
    match readExponent afterFraction with
    | some e =>
      let coefficient := digitsValue (whole ++ fraction)
      let exponent := e - fraction.length
      if minExponent ≤ exponent ∧ adjusted coefficient exponent ≤ maxExponent then
        some (.finite negative coefficient exponent)
      else none
    | none => none

/-- Reads what follows the word for a NaN. -/
def readPayload (negative signaling : Bool) (digits : List Char) : Option Decimal :=
  if digits.all Char.isDigit then some (.nan negative signaling (digitsValue digits)) else none

/-- Reads an unsigned numeral or one of the words for infinity and NaN, in any case. -/
def readUnsigned (negative : Bool) (cs : List Char) : Option Decimal :=
  match cs.map Char.toLower with
  | 'i' :: 'n' :: 'f' :: [] => some (.infinite negative)
  | 'i' :: 'n' :: 'f' :: 'i' :: 'n' :: 'i' :: 't' :: 'y' :: [] => some (.infinite negative)
  | 'n' :: 'a' :: 'n' :: digits => readPayload negative false digits
  | 's' :: 'n' :: 'a' :: 'n' :: digits => readPayload negative true digits
  | _ => readFinite negative cs

/-- Reads a decimal exactly; `none` when the text is no numeral or out of range. -/
def ofText? (s : String) : Option Decimal := do
  let cs ← normalized s
  let (negative, rest) := Text.splitSign cs
  readUnsigned negative rest

/-- A minus sign or nothing. -/
def signText (negative : Bool) : List Char := if negative then ['-'] else []

/-- The exponent part, with its sign always written. -/
def exponentText (e : Int) : List Char :=
  'E' :: (if e < 0 then '-' else '+') :: Nat.toDigits 10 e.natAbs

/-- The digits of a coefficient with the point placed by the exponent. -/
def finiteText (coefficient : Nat) (exponent : Int) : List Char :=
  let digits := Nat.toDigits 10 coefficient
  let lead := exponent + digits.length
  if exponent ≤ 0 ∧ -6 < lead then
    if exponent = 0 then digits
    else if lead ≤ 0 then '0' :: '.' :: List.replicate (-lead).toNat '0' ++ digits
    else digits.take lead.toNat ++ '.' :: digits.drop lead.toNat
  else
    let mantissa :=
      match digits with
      | d :: [] => [d]
      | d :: rest => d :: '.' :: rest
      | [] => []
    mantissa ++ exponentText (lead - 1)

/-- The characters of a decimal. -/
def characters : Decimal → List Char
  | .finite negative coefficient exponent => signText negative ++ finiteText coefficient exponent
  | .infinite negative => signText negative ++ "Infinity".toList
  | .nan negative signaling payload =>
    signText negative ++ (if signaling then "sNaN" else "NaN").toList ++
      (if payload = 0 then [] else Nat.toDigits 10 payload)

/-- A decimal as text. -/
def text (d : Decimal) : String := String.ofList d.characters

example : (Decimal.finite false 0 (-9)).text = "0E-9" := by decide
example : (Decimal.finite true 0 (-2)).text = "-0.00" := by decide
example : (Decimal.finite false 1 3).text = "1E+3" := by decide
example : (Decimal.finite false 12 (-7)).text = "0.0000012" := by decide
example : (Decimal.finite false 15 (-10)).text = "1.5E-9" := by decide

end CardPayments.Decimal
