import CardPayments.Moment
import CardPayments.Text.Quoted

/-!
# Reading moments

A moment is read from the formats of ISO 8601: a date by month and day or by week, with or without
hyphens, then any one character, then a time with or without colons, a fraction and an offset. The
form of the whole text is read first; only then is it checked that the offset, the date and the
time exist.
-/

namespace CardPayments

/-- Why a text is not read as a moment. -/
inductive MomentFault where
  /-- The text does not have the form of a moment. -/
  | malformed (s : String)
  /-- The offset, in microseconds, is a day or more. -/
  | offset (micros : Int)
  /-- The year does not have four digits or is zero. -/
  | year (n : Nat)
  /-- There is no such month. -/
  | month
  /-- The month has no such day. -/
  | day
  /-- There is no such hour. -/
  | hour
  /-- There is no such minute. -/
  | minute
  /-- There is no such second. -/
  | second
  deriving DecidableEq, Repr

namespace MomentFault

/-- A distance in time as a message shows it: days, which are negative when the distance is, then
what goes beyond them; zeros are left out. -/
def distanceText (micros : Int) : String :=
  let rest := micros.fmod Moment.day
  let parts := [("days", micros.fdiv Moment.day), ("seconds", rest.fdiv Moment.second),
    ("microseconds", rest.fmod Moment.second)]
  let shown := (parts.filter (·.2 != 0)).map fun part => part.1 ++ "=" ++ Text.ofInt part.2
  "datetime.timedelta(" ++ String.intercalate ", " shown ++ ")"

/-- The message of a fault. -/
def message : MomentFault → String
  | .malformed s => "Invalid isoformat string: " ++ Text.quoted s
  | .offset micros =>
    "offset must be a timedelta strictly between -timedelta(hours=24) and timedelta(hours=24), not "
      ++ distanceText micros ++ "."
  | .year n => "year " ++ Text.ofNat n ++ " is out of range"
  | .month => "month must be in 1..12"
  | .day => "day is out of range for month"
  | .hour => "hour must be in 0..23"
  | .minute => "minute must be in 0..59"
  | .second => "second must be in 0..59"

end MomentFault

namespace Date

/-- The weekday on which a year begins, from zero for Monday. -/
def firstWeekday (year : Nat) : Nat := daysBeforeYear year % 7

/-- How many weeks a year has: those that have their Thursday in it. -/
def weeks (year : Nat) : Nat :=
  if firstWeekday year = 3 ∨ (firstWeekday year = 2 ∧ isLeap year) then 53 else 52

/-- The Monday of the first week of a year, in days from the first day of the year 1. -/
def firstMonday (year : Nat) : Nat :=
  let monday := daysBeforeYear year - firstWeekday year
  if 3 < firstWeekday year then monday + 7 else monday

/-- The date of a day, from one for Monday, in a week of a year. The year 0 has weeks, but they lie
in no month. -/
def ofWeek? (year week weekday : Nat) : Option Date :=
  if week = 0 ∨ weekday = 0 ∨ 7 < weekday then none
  else if year = 0 then (if week ≤ 52 then some ⟨1, 0, 0⟩ else none)
  else if weeks year < week then none
  else some (ofDays (firstMonday year + (week - 1) * 7 + (weekday - 1)))

/-- Refuses a date that does not exist. -/
def check (date : Date) : Except MomentFault Unit :=
  if date.year < 1 ∨ 9999 < date.year then .error (.year date.year)
  else if date.month < 1 ∨ 12 < date.month then .error .month
  else if date.isValid then .ok ()
  else .error .day

end Date

/-- A time of day as it is written. -/
structure WrittenTime where
  /-- The hour. -/
  hour : Nat
  /-- The minute. -/
  minute : Nat
  /-- The second. -/
  second : Nat
  /-- The fraction of a second in microseconds. -/
  micros : Nat
  /-- Whether characters are left behind the time. -/
  leftover : Bool

namespace WrittenTime

/-- The whole seconds since midnight. -/
def seconds (t : WrittenTime) : Nat := t.hour * 3600 + t.minute * 60 + t.second

/-- Refuses a time that does not exist. -/
def check (t : WrittenTime) : Except MomentFault Unit :=
  if 24 ≤ t.hour then .error .hour
  else if 60 ≤ t.minute then .error .minute
  else if 60 ≤ t.second then .error .second
  else .ok ()

end WrittenTime

namespace Moment

/-! ## Dates -/

/-- Reads exactly `width` ASCII digits. -/
def readNumber (width : Nat) (cs : List Char) : Option (Nat × List Char) :=
  let digits := cs.take width
  if digits.length = width ∧ digits.all Char.isDigit then
    some (Nat.ofDigitChars 10 digits 0, cs.drop width)
  else none

/-- How many characters of a text are its date. A hyphen behind a week divides the week from a time
if two characters on there is a digit, and from a weekday otherwise; of the digits behind a week
without hyphens the first is a weekday unless that leaves half an hour's digits. -/
def dateLength (cs : List Char) : Nat :=
  let has (place : Nat) (c : Char) : Bool := cs[place]? == some c
  if cs.length = 7 then 7
  else if has 4 '-' then
    if has 5 'W' then
      if has 8 '-' && !(cs[10]?).any Char.isDigit then 10 else 8
    else 10
  else if has 4 'W' then
    let digits := ((cs.drop 7).takeWhile Char.isDigit).length
    if digits = 0 ∨ (1 < digits ∧ digits % 2 = 1) then 7 else 8
  else 8

/-- Reads the hyphen of a date that has hyphens. -/
def readHyphen (hyphens : Bool) (cs : List Char) : Option (List Char) :=
  match hyphens, cs with
  | true, '-' :: rest => some rest
  | true, _ => none
  | false, cs => some cs

/-- Reads a date, which may not exist. -/
def readDate (cs : List Char) : Option Date := do
  let (year, cs) ← readNumber 4 cs
  let hyphens := cs.head? == some '-'
  let cs ← readHyphen hyphens cs
  match cs with
  | 'W' :: cs =>
    let (week, cs) ← readNumber 2 cs
    if cs.isEmpty then Date.ofWeek? year week 1
    else
      let (weekday, _) ← readNumber 1 (← readHyphen hyphens cs)
      Date.ofWeek? year week weekday
  | cs =>
    let (month, cs) ← readNumber 2 cs
    let (day, _) ← readNumber 2 (← readHyphen hyphens cs)
    some ⟨year, month, day⟩

/-! ## Times -/

/-- Whether characters are left of a text, which a NUL ends as well. -/
def hasLeft : List Char → Bool
  | [] => false
  | c :: _ => c != '\x00'

/-- Reads a fraction of a second, and whether anything is left behind it; digits beyond the sixth
are ignored. -/
def readFraction (cs : List Char) : Option (Nat × Bool) :=
  let kept := cs.take 6
  if kept.all Char.isDigit then
    some (Nat.ofDigitChars 10 (kept ++ List.replicate (6 - kept.length) '0') 0,
      hasLeft ((cs.drop 6).dropWhile Char.isDigit))
  else none

/-- Reads up to `left` further numbers of two digits each, and a fraction. A single ASCII character
behind a number is left over. With colons the third number may be followed by one instead of a
point; without colons by the fraction itself. -/
def readParts (colons : Bool) :
    (left : Nat) → List Char → Option (List Nat × Nat × Bool)
  | 0, cs => do
    let (micros, leftover) ← readFraction cs
    some ([], micros, leftover)
  | left + 1, cs => do
    let (n, cs) ← readNumber 2 cs
    match cs with
    | [] => some ([n], 0, false)
    | [c] => if c.toNat < 0x80 then some ([n], 0, c != '\x00') else none
    | c :: rest =>
      if c = '.' ∨ c = ',' then
        let (micros, leftover) ← readFraction rest
        some ([n], micros, leftover)
      else if colons then
        if c = ':' then
          let (ns, more) ← readParts colons left rest
          some (n :: ns, more)
        else none
      else
        let (ns, more) ← readParts colons left (c :: rest)
        some (n :: ns, more)

/-- Reads a time of day, which may not exist: hours and, as far as they are there, minutes, seconds
and a fraction. -/
def readTime (cs : List Char) : Option WrittenTime := do
  let (ns, micros, leftover) ← readParts (cs[2]? == some ':') 3 cs
  some ⟨ns.getD 0 0, ns.getD 1 0, ns.getD 2 0, micros, leftover⟩

/-! ## Offsets -/

/-- A character with which an offset begins. -/
def isOffsetMark (c : Char) : Bool := c == '+' || c == '-' || c == 'Z'

/-- Reads an offset, which may be too large: nothing, the letter Z, or a sign and a time. Less than
a second is no offset. -/
def readOffset : List Char → Option (Option Int)
  | [] => some none
  | 'Z' :: rest => if hasLeft rest then none else some (some 0)
  | sign :: rest => do
    let t ← readTime rest
    if t.leftover then none
    else if t.seconds = 0 then some (some 0)
    else some (some (Text.signed (sign == '-') (t.seconds * second + t.micros)))

/-- Reads the time and the offset that follow a date and one character. What is left between a time
and an offset is ignored. -/
def readTimeAndOffset : List Char → Option (WrittenTime × Option Int)
  | [] => some (⟨0, 0, 0, 0, false⟩, none)
  | _ :: rest => do
    let t ← readTime (rest.takeWhile fun c => !isOffsetMark c)
    let zone := rest.dropWhile fun c => !isOffsetMark c
    if t.leftover && zone.isEmpty then none
    else
      let offset ← readOffset zone
      some (t, offset)

/-- Refuses an offset of a day or more. -/
def checkOffset (offset : Option Int) : Except MomentFault Unit :=
  match offset with
  | some micros => if micros.natAbs < day then .ok () else .error (.offset micros)
  | none => .ok ()

/-- The date, the time and the offset that a text writes, none of which has to exist. -/
def readWritten (cs : List Char) : Option (Date × WrittenTime × Option Int) := do
  let length := dateLength cs
  let date ← readDate (cs.take length)
  let (time, offset) ← readTimeAndOffset (cs.drop length)
  some (date, time, offset)

/-- Reads a moment, or tells why there is none. -/
def ofText (s : String) : Except MomentFault Moment := do
  match readWritten s.toList with
  | none => throw (.malformed s)
  | some (date, time, offset) =>
    checkOffset offset
    date.check
    time.check
    pure ⟨((date.toDays * 86400 + time.seconds) * second + time.micros : Nat), offset⟩

end Moment

end CardPayments
