import CardPayments.Fault

/-!
# Checking fields

A field is read from a value or found defective. Checking the parts of an input together collects
the defects of all of them in order. Numbers and truth values are read leniently: from texts, from
each other, and from doubles without a fraction.
-/

namespace CardPayments

/-- A value read from an input, or every defect that stands in its way. -/
inductive Checked (α : Type) where
  /-- The value. -/
  | ok (a : α)
  /-- The defects, in order. -/
  | defects (ds : List Defect)

namespace Checked

variable {α β : Type}

/-- Applies a checked function to a checked argument. Defects of both sides are kept. -/
def apply : Checked (α → β) → Checked α → Checked β
  | .ok f, .ok a => .ok (f a)
  | .ok _, .defects es => .defects es
  | .defects ds, .ok _ => .defects ds
  | .defects ds, .defects es => .defects (ds ++ es)

instance : Applicative Checked where
  pure := .ok
  seq f a := apply f (a ())

/-- A single defect of the value itself. -/
def fail (kind : DefectKind) : Checked α := .defects [⟨kind, []⟩]

/-- Places the defects one step further down. -/
def under (step : PathStep) : Checked α → Checked α
  | .ok a => .ok a
  | .defects ds => .defects (ds.map fun d => { d with path := step :: d.path })

/-- Passes a value on. -/
def map (f : α → β) : Checked α → Checked β
  | .ok a => .ok (f a)
  | .defects ds => .defects ds

/-- Checks a value further that has passed a check. -/
def andThen (check : α → Checked β) : Checked α → Checked β
  | .ok a => check a
  | .defects ds => .defects ds

/-- Checks a value if there is one. -/
def option (check : α → Checked β) : Option α → Checked (Option β)
  | some a => map some (check a)
  | none => .ok none

/-- The value, or the fault that every defect is told with. -/
def outcome : Checked α → Outcome α
  | .ok a => .ok a
  | .defects ds => .error (.invalidFields ds)

/-- Checks the items of a list, which are numbered from `first`. -/
def eachFrom (check : α → Checked β) : (first : Nat) → List α → Checked (List β)
  | _, [] => .ok []
  | first, a :: as =>
    apply (map List.cons (under (.index first) (check a))) (eachFrom check (first + 1) as)

/-- Checks the items of a list. -/
def each (check : α → Checked β) (as : List α) : Checked (List β) := eachFrom check 0 as

/-! ## Fields -/

/-- A field that has to be there. -/
def required (name : String) (check : Value → Checked α) : Option Value → Checked α
  | some v => under (.field name) (check v)
  | none => under (.field name) (fail .missing)

/-- A field with a default. -/
def withDefault (name : String) (default : α) (check : Value → Checked α) :
    Option Value → Checked α
  | some v => under (.field name) (check v)
  | none => .ok default

/-- A value that may be null. -/
def nullable (check : Value → Checked α) : Value → Checked (Option α)
  | .null => .ok none
  | v => map some (check v)

/-- A field that may be absent or null. -/
def optional (name : String) (check : Value → Checked α) : Option Value → Checked (Option α) :=
  withDefault name none (nullable check)

/-- A text. One that is no Unicode is taken as it is shown. -/
def text : Value → Checked String
  | .text s => .ok s
  | .brokenText shown => .ok shown
  | _ => fail .textType

/-- A table. -/
def table : Value → Checked Bag
  | .table entries => .ok entries
  | _ => fail .tableType

/-- The entries of an object. -/
def object (check : Bag → Checked α) : Value → Checked α
  | .table entries => check entries
  | _ => fail .modelType

/-- The items of a list. -/
def list (check : Value → Checked α) : Value → Checked (List α)
  | .list items => each check items
  | _ => fail .listType

/-- The words for yes and no, in any case. -/
def boolWord? (s : String) : Option Bool :=
  let word := s.toList.map Char.toLower
  if ["1", "t", "y", "on", "yes", "true"].any (·.toList == word) then some true
  else if ["0", "f", "n", "no", "off", "false"].any (·.toList == word) then some false
  else none

/-- Whether a whole number fits a machine word with a sign. -/
def fitsWord (n : Int) : Bool := -9223372036854775808 ≤ n && n ≤ 9223372036854775807

/-- Whether a double without a fraction is read as a machine word. The least word is not. -/
def isDoubleWord (n : Int) : Bool := n.natAbs < 9223372036854775808

/-- A truth value from a whole number: zero or one, which another machine word could have been. -/
def boolOfInt (n : Int) : Checked Bool :=
  if n = 0 then .ok false
  else if n = 1 then .ok true
  else if fitsWord n then fail .boolParsing
  else fail .boolType

/-- A truth value, read leniently. -/
def bool : Value → Checked Bool
  | .bool b => .ok b
  | .text s =>
    match boolWord? s with
    | some b => .ok b
    | none => fail .boolParsing
  | .brokenText _ => fail .textUnicode
  | .int n => boolOfInt n
  | .float x =>
    match x.toInt? with
    | some n => if isDoubleWord n then boolOfInt n else fail .boolType
    | none => fail .boolType
  | _ => fail .boolType

/-- A whole number, read leniently. -/
def int : Value → Checked Int
  | .int n => .ok n
  | .bool b => .ok (if b then 1 else 0)
  | .text s =>
    match Text.readInt s with
    | .number n => .ok n
    | .tooLong => fail .intParsingSize
    | .malformed => fail .intParsing
  | .brokenText _ => fail .textUnicode
  | .float x =>
    if !x.isFinite then fail .finiteNumber
    else
      match x.toInt? with
      | some n => if isDoubleWord n then .ok n else fail .intParsingSize
      | none => fail .intFromFloat
  | _ => fail .intType

/-- A table whose values are texts. -/
def textTable (v : Value) : Checked (List (String × String)) :=
  match v with
  | .table entries => entries.foldr (fun entry rest =>
      apply (map (fun s more => (entry.1, s) :: more)
        (under (.field entry.1) (text entry.2))) rest) (.ok [])
  | _ => fail .tableType

end Checked

end CardPayments
