import CardPayments.Status

/-!
# Error messages and error codes

A response explains a failure by a message and by a code of at most 32 characters. When the code is
the dotted name of an exception class that does not fit, its leading segments are cut to their first
letter, from left to right, until the name fits.
-/

namespace CardPayments

namespace DottedName

/-- No more dots than these separate segments; further ones belong to the last segment. -/
def maxDots : Nat := 16

/-- Where the first dots stand, at most `limit` of them, if the first character stands at
`start`. -/
def dotIndexes : (limit start : Nat) → List Char → List Nat
  | 0, _, _ => []
  | _ + 1, _, [] => []
  | limit + 1, start, c :: cs =>
    if c = '.' then start :: dotIndexes limit (start + 1) cs
    else dotIndexes (limit + 1) (start + 1) cs

/-- How many characters are kept of the segments before some dots, and one more for each, if the
first of them begins at `start` and the name is too long by `excess`. -/
def keptLengths : (excess : Int) → (start : Nat) → List Nat → List Nat
  | _, _, [] => []
  | excess, start, dot :: dots =>
    let available := dot - start
    let kept := if 0 < excess then (if available < 1 then available else 1) else available
    (kept + 1) :: keptLengths (excess - (available - kept : Nat)) (dot + 1) dots

/-- How many characters are kept of each segment and of the last part. A dot counts with what
follows it; the first segment, which has none before it, counts one more as well. -/
def segmentLengths (length : Nat) (target : Int) (dots : List Nat) : List Nat :=
  keptLengths (length - target) 0 dots ++ [length - dots.getLastD 0]

/-- The characters of a name with leading segments cut until it has at most `target` characters, or
until only the last segment is whole. -/
def abbreviateChars (target : Int) (name : List Char) : List Char :=
  let dots := dotIndexes maxDots 0 name
  if dots.isEmpty then name
  else
    let lengths := segmentLengths name.length target dots
    name.take (lengths.headD 0 - 1) ++
      (dots.zip lengths.tail).flatMap fun (dot, length) => (name.drop dot).take length

/-- The name with leading segments cut until it has at most `target` characters, or until only the
last segment is whole. -/
def abbreviate (target : Int) (name : String) : String :=
  String.ofList (abbreviateChars target name.toList)

end DottedName

namespace ErrorCode

/-- The width of the column that keeps error codes. -/
def maxLength : Nat := 32

/-- The first `limit` characters of a longer text. A negative limit counts from the end. -/
def truncate (limit : Int) (s : String) : String :=
  let cs := s.toList
  if (cs.length : Int) ≤ limit then s
  else if 0 ≤ limit then String.ofList (cs.take limit.toNat)
  else String.ofList (cs.take (cs.length - limit.natAbs))

/-- The exception class among the properties, abbreviated when it does not fit. -/
def exceptionClass (data : Bag) : Option String :=
  (data.text? Property.exceptionClass).map fun name =>
    if name.toList.length ≤ maxLength then name else DottedName.abbreviate maxLength name

/-- The code of an outcome: its own code, else its business result, else the exception class. -/
def ofOutcome (code : Option String) (data : Bag) (result : Option String) : Option String :=
  ((code.or result).or (exceptionClass data)).map (truncate maxLength)

end ErrorCode

/-- The message of an outcome: its reason, else the message of the exception. -/
def errorMessage (reason : Option String) (data : Bag) : Option String :=
  reason.or (data.text? Property.exceptionMessage)

namespace GatewayResponse

/-- The message that explains a response. -/
def errorMessage : GatewayResponse → Outcome (Option String)
  | .purchase r => .ok (CardPayments.errorMessage r.reason r.additionalData)
  | .modification r => .ok (CardPayments.errorMessage none r.additionalData)
  | .notification properties =>
    .ok (CardPayments.errorMessage (properties.text? Property.reason) properties)
  | .unrecognised kind => .error (.unsupportedResponse kind)

/-- The code that explains a response. -/
def errorCode : GatewayResponse → Outcome (Option String)
  | .purchase r =>
    .ok (ErrorCode.ofOutcome r.resultCode r.additionalData (r.result.map PspResult.code))
  | .modification r =>
    .ok (ErrorCode.ofOutcome r.response r.additionalData (r.result.map PspResult.code))
  | .notification properties =>
    .ok (ErrorCode.ofOutcome (properties.text? Property.resultCode) properties
      (properties.text? Property.pspResult))
  | .unrecognised kind => .error (.unsupportedResponse kind)

end GatewayResponse

end CardPayments
