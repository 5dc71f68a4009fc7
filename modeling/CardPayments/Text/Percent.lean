import CardPayments.Text.Quoted

/-!
# Percent encoding

An octet of the UTF-8 form of a text may be written as a percent sign and two hexadecimal digits.
Reading works on maximal runs of ASCII characters; octets that are no UTF-8 read as the replacement
character, one for each maximal beginning of a sequence.
-/

namespace CardPayments.Text

/-! ## UTF-8 -/

/-- The character that stands for octets that are no UTF-8. -/
def replacement : Char := '\ufffd'

/-- An unfinished sequence of octets: how many are missing, the value so far, and the bounds of the
next octet. -/
structure Utf8Sequence where
  /-- How many octets are missing. -/
  missing : Nat
  /-- The value so far. -/
  value : Nat
  /-- The least next octet. -/
  least : Nat
  /-- The greatest next octet. -/
  greatest : Nat

/-- A reader of octets: the characters so far, last first, and the unfinished sequence. -/
structure Utf8Reader where
  /-- The characters so far. -/
  read : List Char
  /-- The unfinished sequence. -/
  unfinished : Option Utf8Sequence

namespace Utf8Reader

/-- Takes an octet that begins something new. -/
def start (read : List Char) (b : Nat) : Utf8Reader :=
  if b < 0x80 then ⟨Char.ofNat b :: read, none⟩
  else if b < 0xc2 then ⟨replacement :: read, none⟩
  else if b < 0xe0 then ⟨read, some ⟨1, b - 0xc0, 0x80, 0xbf⟩⟩
  else if b = 0xe0 then ⟨read, some ⟨2, 0, 0xa0, 0xbf⟩⟩
  else if b = 0xed then ⟨read, some ⟨2, 0xd, 0x80, 0x9f⟩⟩
  else if b < 0xf0 then ⟨read, some ⟨2, b - 0xe0, 0x80, 0xbf⟩⟩
  else if b = 0xf0 then ⟨read, some ⟨3, 0, 0x90, 0xbf⟩⟩
  else if b < 0xf4 then ⟨read, some ⟨3, b - 0xf0, 0x80, 0xbf⟩⟩
  else if b = 0xf4 then ⟨read, some ⟨3, 4, 0x80, 0x8f⟩⟩
  else ⟨replacement :: read, none⟩

/-- Takes an octet. -/
def step (r : Utf8Reader) (b : Nat) : Utf8Reader :=
  match r.unfinished with
  | none => start r.read b
  | some q =>
    if q.least ≤ b ∧ b ≤ q.greatest then
      let value := 64 * q.value + (b - 0x80)
      if q.missing = 1 then ⟨Char.ofNat value :: r.read, none⟩
      else ⟨r.read, some ⟨q.missing - 1, value, 0x80, 0xbf⟩⟩
    else start (replacement :: r.read) b

/-- The characters at the end. -/
def finish (r : Utf8Reader) : List Char :=
  (match r.unfinished with
    | none => r.read
    | some _ => replacement :: r.read).reverse

end Utf8Reader

/-- The characters that octets stand for. -/
def ofUtf8 (octets : List Nat) : List Char := (octets.foldl Utf8Reader.step ⟨[], none⟩).finish

/-- The octets of a text. -/
def toUtf8 (s : String) : List Nat := s.toUTF8.toList.map UInt8.toNat

/-! ## Reading -/

/-- The value of a hexadecimal digit. -/
def hexDigitValue? (c : Char) : Option Nat :=
  if c.isDigit then some (c.toNat - '0'.toNat)
  else if 'a' ≤ c ∧ c ≤ 'f' then some (c.toNat - 'a'.toNat + 10)
  else if 'A' ≤ c ∧ c ≤ 'F' then some (c.toNat - 'A'.toNat + 10)
  else none

/-- The octets of a run of ASCII characters. A percent sign without two hexadecimal digits stands
for itself. -/
def percentOctets : List Char → List Nat
  | [] => []
  | [c] => [c.toNat]
  | [c, d] => [c.toNat, d.toNat]
  | c :: d :: e :: rest =>
    if c = '%' then
      match hexDigitValue? d, hexDigitValue? e with
      | some high, some low => (16 * high + low) :: percentOctets rest
      | _, _ => c.toNat :: percentOctets (d :: e :: rest)
    else c.toNat :: percentOctets (d :: e :: rest)

/-- Reads a text whose ASCII run so far, last first, is `run`. -/
def readPercent : (run : List Char) → List Char → List Char
  | run, [] => ofUtf8 (percentOctets run.reverse)
  | run, c :: rest =>
    if c.toNat < 0x80 then readPercent (c :: run) rest
    else ofUtf8 (percentOctets run.reverse) ++ c :: readPercent [] rest

/-- The text that a percent-encoded text stands for. -/
def ofPercent (cs : List Char) : String := String.ofList (readPercent [] cs)

/-! ## Writing -/

/-- A character that never has to be encoded. -/
def isUnreserved (c : Char) : Bool :=
  c.isAlphanum || c == '_' || c == '.' || c == '-' || c == '~'

/-- An octet as a percent sign and two digits. -/
def percentOctet (b : Nat) : List Char := '%' :: (hexDigits 2 b).map Char.toUpper

/-- An octet, encoded unless it is a character that may stay. -/
def percentCharacters (keep : Char → Bool) (b : Nat) : List Char :=
  if b < 0x80 ∧ (isUnreserved (Char.ofNat b) ∨ keep (Char.ofNat b)) then [Char.ofNat b]
  else percentOctet b

/-- The percent-encoded form of a text. -/
def toPercent (keep : Char → Bool) (s : String) : List Char :=
  (toUtf8 s).flatMap (percentCharacters keep)

end CardPayments.Text
