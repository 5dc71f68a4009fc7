import CardPayments.Text.Percent
import CardPayments.Value

/-!
# Tokens of JSON text

The scanner is a machine that takes one character at a time and collects tokens. A maximal run of
letters, digits, signs and points is one word and stands for a number or a constant. Quoted text
may hold no control character. Two dialects differ in what they admit: how deep a text may nest,
which numbers may be long, and whether an escaped half of a pair of surrogates may stand alone.
-/

namespace CardPayments.Json

/-- What a dialect admits. -/
structure Dialect where
  /-- How many lists and tables may be open at a time. -/
  depth : Nat
  /-- Whether one that is empty counts. -/
  countsEmpty : Bool
  /-- Whether a number with a fraction or an exponent may have a whole part of any length. -/
  longDoubles : Bool
  /-- Whether half a pair of surrogates may stand alone. -/
  loneHalves : Bool
  deriving DecidableEq, Repr

namespace Dialect

/-- The dialect of notifications. -/
def strict : Dialect := ⟨200, false, false, false⟩

/-- The dialect of settings. -/
def lenient : Dialect := ⟨984, true, true, true⟩

/-- Whether another list or table may be opened when so many are open. -/
def admitsOpening (d : Dialect) (opened : Nat) : Bool := !d.countsEmpty || opened < d.depth

/-- Whether the last of so many open lists and tables may be filled. -/
def admitsFilling (d : Dialect) (opened : Nat) : Bool := opened ≤ d.depth

end Dialect

/-- One place of a quoted text. -/
inductive Mark where
  /-- A character. -/
  | char (c : Char)
  /-- Half a pair of surrogates that stands alone. -/
  | half (code : Nat)
  deriving DecidableEq, Repr

/-- What is shown of a place. A half would take three octets, none of which belongs to a text, and
each of them is shown as the replacement character. -/
def Mark.shown : Mark → List Char
  | .char c => [c]
  | .half _ => List.replicate 3 Text.replacement

/-- A quoted text, which may be no Unicode. -/
abbrev Quoted := List Mark

namespace Quoted

/-- What is shown of the text. Two texts that are no Unicode may look the same. -/
def shown (q : Quoted) : String := String.ofList (q.flatMap Mark.shown)

/-- Whether no half stands alone. -/
def isWhole (q : Quoted) : Bool := q.all fun
  | .char _ => true
  | .half _ => false

/-- The text as a value. -/
def value (q : Quoted) : Value := if q.isWhole then .text q.shown else .brokenText q.shown

/-- A text without halves is shown as it is. -/
theorem shown_map_char (cs : List Char) : shown (cs.map .char) = String.ofList cs := by
  simp [shown, List.flatMap_map, Mark.shown]

/-- A text without halves is a text. -/
theorem value_map_char (cs : List Char) : value (cs.map .char) = .text (String.ofList cs) := by
  simp [value, isWhole, shown_map_char]

end Quoted

/-- A token. -/
inductive Token where
  /-- An opening brace. -/
  | openTable
  /-- A closing brace. -/
  | closeTable
  /-- An opening bracket. -/
  | openList
  /-- A closing bracket. -/
  | closeList
  /-- A colon. -/
  | colon
  /-- A comma. -/
  | comma
  /-- A quoted text. -/
  | quoted (q : Quoted)
  /-- A number or a constant. -/
  | scalar (v : Value)

/-- What the scanner is in the middle of. What is read so far is kept last first. -/
inductive Scan where
  /-- Between two tokens. -/
  | between
  /-- In a word. -/
  | word (read : List Char)
  /-- In a quoted text. -/
  | quoted (read : Quoted)
  /-- After a backslash. -/
  | escape (read : Quoted)
  /-- In the digits of an escaped code. -/
  | code (read : Quoted) (digits value : Nat)
  /-- After the first half of a pair of surrogates. -/
  | half (read : Quoted) (high : Nat)
  /-- After a backslash that follows the first half. -/
  | halfEscape (read : Quoted) (high : Nat)
  /-- In the digits of the second half. -/
  | secondHalf (read : Quoted) (high digits value : Nat)

/-- The blanks between tokens. -/
def isSpace (c : Char) : Bool := c == ' ' || c == '\t' || c == '\n' || c == '\r'

/-- A character of a word. -/
def isWord (c : Char) : Bool := c.isAlphanum || c == '+' || c == '-' || c == '.'

/-- The value of a hexadecimal digit. -/
def hexValue? (c : Char) : Option Nat :=
  if c.isDigit then some (c.toNat - '0'.toNat)
  else if 'a' ≤ c ∧ c ≤ 'f' then some (c.toNat - 'a'.toNat + 10)
  else if 'A' ≤ c ∧ c ≤ 'F' then some (c.toNat - 'A'.toNat + 10)
  else none

/-- The character that a single letter escapes. -/
def escaped? (c : Char) : Option Char :=
  if c = '"' ∨ c = '\\' ∨ c = '/' then some c
  else if c = 'b' then some '\x08'
  else if c = 'f' then some '\x0c'
  else if c = 'n' then some '\n'
  else if c = 'r' then some '\r'
  else if c = 't' then some '\t'
  else none

/-- Splits off an exponent part; `none` when there is one without digits. -/
def exponent? : List Char → Option (Option Int)
  | [] => some none
  | e :: rest =>
    if e = 'e' ∨ e = 'E' then
      let (negative, digits) := Text.splitSign rest
      if digits ≠ [] ∧ digits.all Char.isDigit then
        some (some (Text.signed negative (Nat.ofDigitChars 10 digits 0)))
      else none
    else none

/-- Reads what follows the whole part of a number: a fraction and an exponent, either of which makes
it a floating-point number. -/
def number? (negative : Bool) (whole rest : List Char) : Option Value :=
  let finish (fraction : List Char) (exponent : Option Int) : Value :=
    .float (Binary64.ofScaled negative (Nat.ofDigitChars 10 (whole ++ fraction) 0)
      (exponent.getD 0 - fraction.length))
  match rest with
  | [] => some (.int (Text.signed negative (Nat.ofDigitChars 10 whole 0)))
  | '.' :: rest =>
    let fraction := rest.takeWhile Char.isDigit
    if fraction = [] then none
    else (exponent? (rest.dropWhile Char.isDigit)).map (finish fraction)
  | rest => (exponent? rest).map (finish [])

/-- Whether a whole part of a number, of which so much is left behind it, is not too long. -/
def Dialect.admitsWhole (d : Dialect) (whole rest : List Char) : Bool :=
  whole.length ≤ Text.maxNumeralLength || (d.longDoubles && !rest.isEmpty)

/-- Reads a number: a minus sign at most, a whole part without needless zeros, and the rest. -/
def readNumber (d : Dialect) (cs : List Char) : Option Value :=
  let (negative, magnitude) :=
    match cs with
    | '-' :: rest => (true, rest)
    | cs => (false, cs)
  let whole := magnitude.takeWhile Char.isDigit
  let rest := magnitude.dropWhile Char.isDigit
  match whole with
  | [] => none
  | digit :: more =>
    if (digit = '0' ∧ more ≠ []) ∨ !d.admitsWhole whole rest then none
    else number? negative whole rest

/-- What a word stands for. -/
def readWord (d : Dialect) (cs : List Char) : Option Value :=
  if cs = "null".toList then some .null
  else if cs = "true".toList then some (.bool true)
  else if cs = "false".toList then some (.bool false)
  else if cs = "NaN".toList then some (.float .nan)
  else if cs = "Infinity".toList then some (.float (.infinite false))
  else if cs = "-Infinity".toList then some (.float (.infinite true))
  else readNumber d cs

/-- The scanner: what it is in the middle of, and the tokens so far, last first. -/
structure Scanner where
  /-- The unfinished token. -/
  scan : Scan
  /-- The finished tokens. -/
  tokens : List Token

namespace Scanner

/-- Takes a character between two tokens. -/
def start (tokens : List Token) (c : Char) : Option Scanner :=
  if isSpace c then some ⟨.between, tokens⟩
  else if c = '\x7b' then some ⟨.between, .openTable :: tokens⟩
  else if c = '\x7d' then some ⟨.between, .closeTable :: tokens⟩
  else if c = '[' then some ⟨.between, .openList :: tokens⟩
  else if c = ']' then some ⟨.between, .closeList :: tokens⟩
  else if c = ':' then some ⟨.between, .colon :: tokens⟩
  else if c = ',' then some ⟨.between, .comma :: tokens⟩
  else if c = '"' then some ⟨.quoted [], tokens⟩
  else if isWord c then some ⟨.word [c], tokens⟩
  else none

/-- Whether a code is the first half of a pair of surrogates. -/
def isHigh (value : Nat) : Bool := 0xd800 ≤ value && value < 0xdc00

/-- Whether a code is the second half of a pair of surrogates. -/
def isLow (value : Nat) : Bool := 0xdc00 ≤ value && value < 0xe000

/-- Goes on after half a pair of surrogates that stands alone, if it may. -/
def leaveHalf (d : Dialect) (scan : Quoted → Option Scan) (read : Quoted) (code : Nat) :
    Option Scan :=
  if d.loneHalves then scan (.half code :: read) else none

/-- Goes on after a complete escaped code. -/
def finishCode (d : Dialect) (read : Quoted) (value : Nat) : Option Scan :=
  if isHigh value then some (.half read value)
  else if isLow value then leaveHalf d (some ∘ .quoted) read value
  else some (.quoted (.char (Char.ofNat value) :: read))

/-- The character that a pair of surrogates stands for. -/
def joinHalves (high low : Nat) : Char :=
  Char.ofNat (0x10000 + (high - 0xd800) * 0x400 + (low - 0xdc00))

/-- Takes a character that stands for itself, or a backslash. -/
def takeQuoted (c : Char) (read : Quoted) : Option Scan :=
  if c = '\\' then some (.escape read)
  else if c.toNat < 0x20 then none
  else some (.quoted (.char c :: read))

/-- Takes the character behind a backslash. -/
def takeEscape (c : Char) (read : Quoted) : Option Scan :=
  if c = 'u' then some (.code read 0 0)
  else (escaped? c).map fun e => .quoted (.char e :: read)

/-- Goes on after a complete second code, which may not complete the pair. -/
def finishSecond (d : Dialect) (read : Quoted) (high value : Nat) : Option Scan :=
  if isLow value then some (.quoted (.char (joinHalves high value) :: read))
  else leaveHalf d (finishCode d · value) read high

/-- Takes a character inside a quoted text. -/
def advance (d : Dialect) (c : Char) : Scan → Option Scan
  | .quoted read => takeQuoted c read
  | .escape read => takeEscape c read
  | .code read digits value => do
    let digit ← hexValue? c
    let value := 16 * value + digit
    if digits < 3 then some (.code read (digits + 1) value) else finishCode d read value
  | .half read high =>
    if c = '\\' then some (.halfEscape read high) else leaveHalf d (takeQuoted c) read high
  | .halfEscape read high =>
    if c = 'u' then some (.secondHalf read high 0 0) else leaveHalf d (takeEscape c) read high
  | .secondHalf read high digits value => do
    let digit ← hexValue? c
    let value := 16 * value + digit
    if digits < 3 then some (.secondHalf read high (digits + 1) value)
    else finishSecond d read high value
  | scan => some scan

/-- The token of a quoted text that ends here, if it does. -/
def quotedEnd? (d : Dialect) : Scan → Option Token
  | .quoted read => some (.quoted read.reverse)
  | .half read high =>
    if d.loneHalves then some (.quoted (Mark.half high :: read).reverse) else none
  | _ => none

/-- Takes one character. -/
def step (d : Dialect) (s : Scanner) (c : Char) : Option Scanner :=
  match s.scan with
  | .between => start s.tokens c
  | .word read =>
    if isWord c then some ⟨.word (c :: read), s.tokens⟩
    else do
      let v ← readWord d read.reverse
      start (.scalar v :: s.tokens) c
  | scan =>
    match if c = '"' then quotedEnd? d scan else none with
    | some token => some ⟨.between, token :: s.tokens⟩
    | none => (advance d c scan).map (⟨·, s.tokens⟩)

/-- The tokens at the end of the text. -/
def finish (d : Dialect) (s : Scanner) : Option (List Token) :=
  match s.scan with
  | .between => some s.tokens.reverse
  | .word read => (readWord d read.reverse).map fun v => (.scalar v :: s.tokens).reverse
  | _ => none

/-- The tokens from here on, up to the first character that fits none, and whether they are all. -/
def run (d : Dialect) : Scanner → List Char → List Token × Bool
  | s, [] =>
    match s.finish d with
    | some tokens => (tokens, true)
    | none => (s.tokens.reverse, false)
  | s, c :: cs =>
    match s.step d c with
    | some s => run d s cs
    | none => (s.tokens.reverse, false)

end Scanner

/-- The tokens of a text, up to the first character that fits none, and whether they are all. -/
def tokens (d : Dialect) (cs : List Char) : List Token × Bool := Scanner.run d ⟨.between, []⟩ cs

end CardPayments.Json
