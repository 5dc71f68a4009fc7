import CardPayments.Text.Case

/-!
# Redaction

Whatever is logged goes through redaction first: the value under a sensitive key is covered up, at
any depth, whatever it is. Letter case does not matter. What else is logged stays, but that tuples
become lists.
-/

namespace CardPayments

/-- What is logged: texts and scalars of any other kind, in lists, tuples and tables. A table has
keys of some kind. -/
inductive LogValue (κ α : Type) where
  /-- A text. -/
  | text (s : String)
  /-- A scalar that is no text. -/
  | scalar (a : α)
  /-- A list of values. -/
  | list (items : List (LogValue κ α))
  /-- A tuple of values. -/
  | tuple (items : List (LogValue κ α))
  /-- A table from keys to values, in the order of its entries. -/
  | table (entries : List (κ × LogValue κ α))
  deriving Inhabited

namespace LogValue

/-- The names whose values are never logged, in lower case. -/
def sensitiveNames : List String :=
  ["pares", "pareq", "md", "token", "recurringdetailid", "shopperemail", "email", "ip", "password",
    "secret", "api_key"]

variable {κ α : Type} [ToString κ]

/-- Whether a key is sensitive, by the text it reads as. -/
def isSensitive (key : κ) : Bool := sensitiveNames.contains (Text.toLower (toString key))

/-- What a sensitive value is replaced by. -/
def cover : LogValue κ α := .text "***"

mutual

/-- A value with everything under a sensitive key covered up. -/
def redact : LogValue κ α → LogValue κ α
  | .text s => .text s
  | .scalar a => .scalar a
  | .list items => .list (redactItems items)
  | .tuple items => .list (redactItems items)
  | .table entries => .table (redactEntries entries)

/-- The items of a list or a tuple, redacted. -/
def redactItems : List (LogValue κ α) → List (LogValue κ α)
  | [] => []
  | item :: items => redact item :: redactItems items

/-- The entries of a table, redacted. -/
def redactEntries : List (κ × LogValue κ α) → List (κ × LogValue κ α)
  | [] => []
  | (key, value) :: entries =>
    (key, if isSensitive key then cover else redact value) :: redactEntries entries

end

end LogValue

end CardPayments
