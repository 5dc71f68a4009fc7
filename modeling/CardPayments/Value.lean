import CardPayments.Binary64
import CardPayments.Decimal.Text
import CardPayments.Text.Case
import CardPayments.Text.Quoted

/-!
# Property values

A property holds a scalar or a nest of lists and tables. Every value has a text, which is what a
consumer of the property reads; inside a list or a table texts are quoted and decimals are marked.
-/

namespace CardPayments

/-- The value of a property. -/
inductive Value where
  /-- No value. -/
  | null
  /-- A truth value. -/
  | bool (b : Bool)
  /-- A whole number. -/
  | int (n : Int)
  /-- A double-precision number. -/
  | float (x : Binary64)
  /-- A decimal number. -/
  | decimal (d : Decimal)
  /-- A text. -/
  | text (s : String)
  /-- A text that is no Unicode, because half a pair of surrogates stands alone in it, as it is
  shown. Settings given as JSON can hold one. -/
  | brokenText (shown : String)
  /-- A list of values. -/
  | list (items : List Value)
  /-- A table from names to values, in the order of its entries. -/
  | table (entries : List (String × Value))
  deriving Inhabited

namespace Value

/-- Whether there is no value. -/
def isNull : Value → Bool
  | .null => true
  | _ => false

/-- A text, or null where there is none. -/
def ofText? : Option String → Value
  | some s => .text s
  | none => .null

/-- Whether the value counts as present and positive: not null, false, zero or empty. -/
def isTruthy : Value → Bool
  | .null => false
  | .bool b => b
  | .int n => n != 0
  | .float x => !x.isZero
  | .decimal d => !d.isZero
  | .text s => s != ""
  | .brokenText _ => true
  | .list items => !items.isEmpty
  | .table entries => !entries.isEmpty

/-- Whether the value is exactly this text. -/
def isText (s : String) : Value → Bool
  | .text t => t == s
  | _ => false

/-- The text of a truth value. -/
def boolText (b : Bool) : String := if b then "True" else "False"

mutual

/-- The text of a value inside a list or a table. -/
def nestedText : Value → String
  | .null => "None"
  | .bool b => boolText b
  | .int n => Text.ofInt n
  | .float x => x.text
  | .decimal d => "Decimal('" ++ d.text ++ "')"
  | .text s => Text.quoted s
  | .brokenText shown => Text.quoted shown
  | .list items => "[" ++ String.intercalate ", " (itemTexts items) ++ "]"
  | .table entries => "\x7b" ++ String.intercalate ", " (entryTexts entries) ++ "\x7d"

/-- The texts of the items of a list. -/
def itemTexts : List Value → List String
  | [] => []
  | item :: items => nestedText item :: itemTexts items

/-- The texts of the entries of a table. -/
def entryTexts : List (String × Value) → List String
  | [] => []
  | (key, value) :: entries => (Text.quoted key ++ ": " ++ nestedText value) :: entryTexts entries

end

/-- The text of a value. -/
def toText : Value → String
  | .text s => s
  | .brokenText shown => shown
  | .decimal d => d.text
  | v => nestedText v

/-- The text of a value, unless it is null. -/
def toText? (v : Value) : Option String := if v.isNull then none else some v.toText

/-- Whether a text stands for yes: the word true, in any case, with blanks around it. -/
def affirmative (s : String) : Bool := Text.toLower (Text.trim s) == "true"

/-- Whether a value stands for yes. -/
def isTrue (v : Value) : Bool :=
  match v.toText? with
  | some s => affirmative s
  | none => false

mutual

/-- The value as a store keeps it: decimals become texts. -/
def storable : Value → Value
  | .decimal d => .text d.text
  | .list items => .list (storableItems items)
  | .table entries => .table (storableEntries entries)
  | .null => .null
  | .bool b => .bool b
  | .int n => .int n
  | .float x => .float x
  | .text s => .text s
  | .brokenText shown => .brokenText shown

/-- The items of a list as a store keeps them. -/
def storableItems : List Value → List Value
  | [] => []
  | item :: items => storable item :: storableItems items

/-- The entries of a table as a store keeps them. -/
def storableEntries : List (String × Value) → List (String × Value)
  | [] => []
  | (key, value) :: entries => (key, storable value) :: storableEntries entries

end

/-! ## Equality -/

mutual

/-- Whether two values are the same. -/
def same : Value → Value → Bool
  | .null, .null => true
  | .bool a, .bool b => a == b
  | .int a, .int b => a == b
  | .float a, .float b => a == b
  | .decimal a, .decimal b => a == b
  | .text a, .text b => a == b
  | .brokenText a, .brokenText b => a == b
  | .list as, .list bs => sameItems as bs
  | .table as, .table bs => sameEntries as bs
  | _, _ => false

/-- Whether two lists hold the same values. -/
def sameItems : List Value → List Value → Bool
  | [], [] => true
  | a :: as, b :: bs => same a b && sameItems as bs
  | _, _ => false

/-- Whether two tables hold the same entries in the same order. -/
def sameEntries : List (String × Value) → List (String × Value) → Bool
  | [], [] => true
  | (k, a) :: as, (l, b) :: bs => k == l && same a b && sameEntries as bs
  | _, _ => false

end

mutual

theorem same_iff : ∀ a b : Value, same a b = true ↔ a = b
  | .null, b => by cases b <;> simp [same]
  | .bool _, b => by cases b <;> simp [same]
  | .int _, b => by cases b <;> simp [same]
  | .float _, b => by cases b <;> simp [same]
  | .decimal _, b => by cases b <;> simp [same]
  | .text _, b => by cases b <;> simp [same]
  | .brokenText _, b => by cases b <;> simp [same]
  | .list as, b => by cases b <;> simp [same, sameItems_iff as]
  | .table as, b => by cases b <;> simp [same, sameEntries_iff as]

theorem sameItems_iff : ∀ as bs : List Value, sameItems as bs = true ↔ as = bs
  | [], bs => by cases bs <;> simp [sameItems]
  | a :: as, bs => by cases bs <;> simp [sameItems, same_iff a, sameItems_iff as]

theorem sameEntries_iff : ∀ as bs : List (String × Value), sameEntries as bs = true ↔ as = bs
  | [], bs => by cases bs <;> simp [sameEntries]
  | (_, a) :: as, bs => by
    cases bs <;> simp [sameEntries, Prod.ext_iff, same_iff a, sameEntries_iff as, and_assoc]

end

instance : DecidableEq Value := fun a b => decidable_of_iff _ (same_iff a b)

/-! ## Agreement -/

/-- The whole number that a value counts as. A truth value counts as zero or one. -/
def whole? : Value → Option Int
  | .bool b => some (if b then 1 else 0)
  | .int n => some n
  | .float x => x.toInt?
  | _ => none

/-- Whether two values that hold no others agree: numbers by what they count as, whatever kind of
number they are, and other values when they are the same. -/
def agreeAlone : Value → Value → Bool
  | .float x, .float y => x.equals y
  | a, b =>
    match a.whole?, b.whole? with
    | some m, some n => m == n
    | _, _ => same a b

mutual

/-- Whether two values agree: lists item by item, and tables under every key, in any order. -/
def agrees : Value → Value → Bool
  | .list as, .list bs => agreeItems as bs
  | .table as, .table bs => as.length == bs.length && agreeEntries as bs
  | a, b => agreeAlone a b

/-- Whether two lists agree item by item. -/
def agreeItems : List Value → List Value → Bool
  | [], [] => true
  | a :: as, b :: bs => agrees a b && agreeItems as bs
  | _, _ => false

/-- Whether a table has a value that agrees under the key of every entry. -/
def agreeEntries : List (String × Value) → List (String × Value) → Bool
  | [], _ => true
  | (key, a) :: as, bs =>
    (match bs.lookup key with
      | some b => agrees a b
      | none => false) && agreeEntries as bs

end

example : agrees (.int 1) (.bool true) := by decide
example : agrees (.list [.float (.finite false 3 1)]) (.list [.int 6]) := by decide
example : agrees (.table [("a", .null), ("b", .int 2)]) (.table [("b", .int 2), ("a", .null)]) := by
  decide
example : agrees (.float .nan) (.float .nan) = false := by decide

end Value

end CardPayments
