import CardPayments.Text.Blank
import CardPayments.Text.Digit
import CardPayments.Text.Quoted

/-!
# Whole numbers as text

Printing is plain decimal. Two readers exist: property values and ports admit the digits of every
script, checked fields admit ASCII digits and a fraction of zeros. Both admit a sign, white space
around the numeral and single low lines between digits, and neither reads more than 4300 digits.
-/

namespace CardPayments.Text

/-- The longest numeral that is read. -/
def maxNumeralLength : Nat := 4300

/-- The number in decimal, with a sign only when it is negative. -/
def ofInt (n : Int) : String :=
  match n with
  | .ofNat k => String.ofList (Nat.toDigits 10 k)
  | .negSucc k => String.ofList ('-' :: Nat.toDigits 10 (k + 1))

/-- The number in decimal. -/
def ofNat (n : Nat) : String := String.ofList (Nat.toDigits 10 n)

/-- Splits off a sign. -/
def splitSign : List Char → Bool × List Char
  | '-' :: rest => (true, rest)
  | '+' :: rest => (false, rest)
  | cs => (false, cs)

/-- The number with the sign. -/
def signed (negative : Bool) (n : Nat) : Int := if negative then -(n : Int) else n

/-! ## Digits of every script -/

/-- Why a text is not read as a whole number. -/
inductive NumeralFault where
  /-- The text is no numeral. -/
  | malformed (s : String)
  /-- The numeral has more digits than are read. -/
  | tooLong (digits : Nat)
  deriving DecidableEq, Repr

/-- How many characters of a quoted text a message shows. -/
def shownLength : Nat := 200

/-- The message of a fault. -/
def NumeralFault.message : NumeralFault → String
  | .malformed s =>
    "invalid literal for int() with base 10: " ++
      String.ofList ((quoted s).toList.take shownLength)
  | .tooLong digits =>
    "Exceeds the limit (" ++ ofNat maxNumeralLength ++
      " digits) for integer string conversion: value has " ++ ofNat digits ++
      " digits; use sys.set_int_max_str_digits() to increase the limit"

/-- Reads the longest run of digits between which single low lines may stand; `pending` tells that
a digit has to come next. The result counts the digits and gives what follows them. -/
def readRun : (pending : Bool) → (count total : Nat) → List Char → Option (Nat × Nat × List Char)
  | pending, count, total, [] => if pending then none else some (count, total, [])
  | pending, count, total, c :: rest =>
    if c = '_' then
      if pending then none else readRun true count total rest
    else
      match digitValue? c with
      | some d => readRun false (count + 1) (10 * total + d) rest
      | none => if pending then none else some (count, total, c :: rest)

/-- Reads a whole number, or tells why there is none. The digits are counted before anything
behind them is looked at. -/
def readWhole (s : String) : Except NumeralFault Int :=
  let (negative, numeral) := splitSign (s.toList.dropWhile isWhiteSpace)
  match readRun true 0 0 numeral with
  | none => .error (.malformed s)
  | some (count, n, rest) =>
    if maxNumeralLength < count then .error (.tooLong count)
    else if rest.all isWhiteSpace then .ok (signed negative n)
    else .error (.malformed s)

/-- Reads a whole number from a property value. -/
def toInt? (s : String) : Option Int := (readWhole s).toOption

/-! ## ASCII digits -/

/-- What a numeral in a checked field reads as. -/
inductive Reading where
  /-- The number. -/
  | number (n : Int)
  /-- More digits than are read. -/
  | tooLong
  /-- No numeral. -/
  | malformed
  deriving DecidableEq, Repr

/-- A digit that can begin a number of several digits. -/
def isLeadingDigit (c : Char) : Bool := c.isDigit && c != '0'

/-- What follows the zeros and low lines at the beginning of a numeral, of which `last` is the one
just before. A point keeps the character in front of it, and the last character of all stays. -/
def skipZeros (last : Char) : List Char → Option (List Char)
  | [] => some [last]
  | c :: rest =>
    if c = '0' ∨ c = '_' then skipZeros c rest
    else if isLeadingDigit c ∨ c = '-' then some (c :: rest)
    else if c = '.' then some (last :: c :: rest)
    else none

/-- A numeral without the zeros in front that it does not need. -/
def withoutLeadingZeros : List Char → Option (List Char)
  | [] => none
  | c :: rest =>
    if c = '0' then skipZeros c rest
    else if isLeadingDigit c then some (c :: rest)
    else none

/-- A numeral without a fraction that consists of zeros. -/
def withoutZeroFraction (cs : List Char) : Option (List Char) :=
  match cs.dropWhile (· != '.') with
  | [] => some cs
  | _ :: fraction =>
    if fraction ≠ [] ∧ fraction.all (· == '0') then some (cs.takeWhile (· != '.')) else none

/-- Whether two low lines stand next to each other. -/
def hasDoubleLine : List Char → Bool
  | '_' :: '_' :: _ => true
  | _ :: rest => hasDoubleLine rest
  | [] => false

/-- A numeral without low lines, if each of them stands alone and inside. -/
def withoutLines (cs : List Char) : List Char :=
  if cs.head? = some '_' ∨ cs.getLast? = some '_' ∨ hasDoubleLine cs then cs
  else cs.filter (· != '_')

/-- A numeral in its plain form: no blanks, plus sign, needless zeros or low lines. -/
def plainNumeral? (s : String) : Option (List Char) :=
  let whole (sign numeral : List Char) : Option (List Char) := do
    let numeral ← withoutLeadingZeros numeral
    let digits ← withoutZeroFraction (sign ++ numeral)
    some (withoutLines digits)
  match strip isWhiteSpace s.toList with
  | '+' :: numeral => whole [] numeral
  | '-' :: numeral => whole ['-'] numeral
  | numeral => whole [] numeral

/-- Reads a numeral in its plain form. The digits are counted before anything behind them is looked
at. -/
def readPlain (cs : List Char) : Reading :=
  let (negative, numeral) :=
    match cs with
    | '-' :: rest => (true, rest)
    | cs => (false, cs)
  let digits := numeral.takeWhile Char.isDigit
  match digits with
  | [] => .malformed
  | d :: more =>
    if d = '0' ∧ more ≠ [] then .malformed
    else if maxNumeralLength < digits.length then .tooLong
    else if numeral.length = digits.length then
      .number (signed negative (Nat.ofDigitChars 10 digits 0))
    else .malformed

/-- Reads a whole number from the text of a checked field. A text that is not plain as it stands is
read in its plain form, which may have no more digits either but is then malformed. -/
def readInt (s : String) : Reading :=
  match readPlain s.toList with
  | .malformed =>
    match (plainNumeral? s).map readPlain with
    | some (.number n) => .number n
    | _ => .malformed
  | reading => reading

example : readInt " +0_07.00 " = .number 7 := by decide
example : readInt "-0_1" = .number (-1) := by decide
example : readInt "1__0" = .malformed := by decide

end CardPayments.Text
