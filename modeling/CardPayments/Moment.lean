import CardPayments.Binary64
import CardPayments.Text.Numeral

/-!
# Moments

A moment is what a calendar and a clock show, to the microsecond, in the years 1 to 9999 of the
proleptic Gregorian calendar, with the distance of that clock from universal time when it is known.
-/

namespace CardPayments

/-- A calendar date. -/
structure Date where
  /-- The year. -/
  year : Nat
  /-- The month, from one. -/
  month : Nat
  /-- The day of the month, from one. -/
  day : Nat
  deriving DecidableEq, Repr

namespace Date

/-- Whether February has a 29th. -/
def isLeap (year : Nat) : Bool := year % 4 == 0 && (year % 100 != 0 || year % 400 == 0)

/-- The lengths of the months. -/
def monthLengths (year : Nat) : List Nat :=
  [31, if isLeap year then 29 else 28, 31, 30, 31, 30, 31, 31, 30, 31, 30, 31]

/-- The days from the first of January of the year 1 to that of the given one. -/
def daysBeforeYear (year : Nat) : Nat :=
  let y := year - 1
  y * 365 + y / 4 - y / 100 + y / 400

/-- The days from the first day of the year 1. -/
def toDays (date : Date) : Nat :=
  daysBeforeYear date.year +
    ((monthLengths date.year).take (date.month - 1)).foldl (· + ·) 0 + (date.day - 1)

/-- Finds the month in which a day of the year lies, and the day of that month, both from one. -/
def findMonth : (month : Nat) → List Nat → Nat → Nat × Nat
  | month, [], rest => (month, rest + 1)
  | month, length :: lengths, rest =>
    if rest < length then (month, rest + 1) else findMonth (month + 1) lengths (rest - length)

/-- The date that lies so many days after the first day of the year 1. -/
def ofDays (days : Nat) : Date :=
  let cycles := days / 146097
  let inCycle := days % 146097
  let centuries := min (inCycle / 36524) 3
  let inCentury := inCycle - centuries * 36524
  let fours := inCentury / 1461
  let inFour := inCentury % 1461
  let years := min (inFour / 365) 3
  let year := 400 * cycles + 100 * centuries + 4 * fours + years + 1
  let (month, day) := findMonth 1 (monthLengths year) (inFour - years * 365)
  ⟨year, month, day⟩

/-- A date that exists, in the years that have four digits. -/
def isValid (date : Date) : Bool :=
  1 ≤ date.year && date.year ≤ 9999 && 1 ≤ date.month && date.month ≤ 12 && 1 ≤ date.day &&
    date.day ≤ (monthLengths date.year).getD (date.month - 1) 0

end Date

/-- What a calendar and a clock show. -/
structure Moment where
  /-- Microseconds since the first midnight of the year 1, as the clock shows them. -/
  clock : Int
  /-- How far the clock is ahead of universal time, in microseconds. -/
  offset : Option Int
  deriving DecidableEq, Repr, Inhabited

namespace Moment

/-- Microseconds in a second. -/
def second : Nat := 1000000

/-- Microseconds in a day. -/
def day : Nat := 86400 * second

/-- The microseconds from the first moment to just after the last. -/
def span : Int := 3652059 * day

/-- Whether a clock can show the number of microseconds. -/
def inRange (clock : Int) : Bool := 0 ≤ clock && clock < span

/-- The microseconds in a number of seconds. The part behind the point is taken to microseconds as a
double, and from there to the nearest whole one, a tie going to the even one. -/
def microsOf? : Binary64 → Option Int
  | .finite negative mantissa exponent =>
    let (n, d) := Binary64.quotient mantissa exponent
    match (Binary64.nearest negative (n % d * second) d).toFixed 0 with
    | .finite _ part _ => some (Text.signed negative (n / d * second + part))
    | _ => none
  | _ => none

/-- A number of microseconds, if it is a distance between moments: with the days rounded down, less
than a thousand million of them either way. -/
def distance? (micros : Int) : Option Int :=
  if (micros.fdiv day).natAbs < 1000000000 then some micros else none

/-- The same moment on a clock that shows universal time; a clock without offset is taken to show
it already. `none` when the calendar does not reach that far. -/
def toUniversal (m : Moment) : Option Moment :=
  match m.offset with
  | none => some ⟨m.clock, some 0⟩
  | some offset => if inRange (m.clock - offset) then some ⟨m.clock - offset, some 0⟩ else none

/-- The clock some microseconds later, or earlier. -/
def add (m : Moment) (micros : Int) : Option Moment :=
  if inRange (m.clock + micros) then some { m with clock := m.clock + micros } else none

/-- The clock some seconds later, or earlier. -/
def addSeconds (m : Moment) (seconds : Int) : Option Moment := m.add (seconds * second)

/-- A number with zeros in front up to the given width. -/
def padded (width n : Nat) : List Char :=
  let digits := Nat.toDigits 10 n
  List.replicate (width - digits.length) '0' ++ digits

/-- Hours, minutes, seconds and, unless they are zero, microseconds. Seconds of an offset are left
out when they are zero. -/
def clockText (keepSeconds : Bool) (micros : Nat) : List Char :=
  let seconds := micros / second
  let fraction := micros % second
  padded 2 (seconds / 3600) ++ ':' :: padded 2 (seconds / 60 % 60) ++
    (if keepSeconds || seconds % 60 != 0 || fraction != 0 then ':' :: padded 2 (seconds % 60)
      else []) ++
    (if fraction = 0 then [] else '.' :: padded 6 fraction)

/-- The offset with its sign, or nothing. -/
def offsetText : Option Int → List Char
  | none => []
  | some offset => (if offset < 0 then '-' else '+') :: clockText false offset.natAbs

/-- The characters of a moment: date, the letter T, time, offset. -/
def characters (m : Moment) : List Char :=
  let clock := m.clock.toNat
  let date := Date.ofDays (clock / day)
  padded 4 date.year ++ '-' :: padded 2 date.month ++ '-' :: padded 2 date.day ++
    'T' :: clockText true (clock % day) ++ offsetText m.offset

/-- A moment in the format of ISO 8601. -/
def text (m : Moment) : String := String.ofList m.characters

end Moment

end CardPayments
