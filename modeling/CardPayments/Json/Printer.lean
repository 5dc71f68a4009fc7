import CardPayments.Bag

/-!
# Writing JSON

Values are written without blanks. Text is written as it is, apart from quotation marks,
backslashes and control characters. A decimal has no JSON form and is written as its text, and so is
what is shown of a text that is no Unicode.
-/

namespace CardPayments.Json

/-- One character of a quoted text. -/
def escape (c : Char) : List Char :=
  if c = '"' then ['\\', '"']
  else if c = '\\' then ['\\', '\\']
  else if c = '\n' then ['\\', 'n']
  else if c = '\r' then ['\\', 'r']
  else if c = '\t' then ['\\', 't']
  else if c.toNat < 0x20 then '\\' :: 'u' :: Text.hexDigits 4 c.toNat
  else [c]

/-- A quoted text. -/
def renderText (s : String) : List Char := '"' :: s.toList.flatMap escape ++ ['"']

/-- A double. The infinities and NaN have words of their own. -/
def renderFloat : Binary64 → List Char
  | .infinite negative => (if negative then "-Infinity" else "Infinity").toList
  | .nan => "NaN".toList
  | x => x.text.toList

mutual

/-- The characters of a value. -/
def render : Value → List Char
  | .null => "null".toList
  | .bool b => (if b then "true" else "false").toList
  | .int n => (Text.ofInt n).toList
  | .float x => renderFloat x
  | .decimal d => renderText d.text
  | .text s => renderText s
  | .brokenText shown => renderText shown
  | .list items => '[' :: renderItems items ++ [']']
  | .table entries => '\x7b' :: renderEntries entries ++ ['\x7d']

/-- The characters of the items of a list, with commas between them. -/
def renderItems : List Value → List Char
  | [] => []
  | item :: [] => render item
  | item :: items => render item ++ ',' :: renderItems items

/-- The characters of the entries of a table, with commas between them. -/
def renderEntries : List (String × Value) → List Char
  | [] => []
  | (key, value) :: [] => renderText key ++ ':' :: render value
  | (key, value) :: entries =>
    renderText key ++ ':' :: (render value ++ ',' :: renderEntries entries)

end

/-- A value as JSON text. -/
def write (v : Value) : String := String.ofList (render v)

end CardPayments.Json
