import CardPayments.Value

/-!
# Property bags

Free-form properties travel with every attempt, answer and record as a table from names to values.
A property without a value counts as absent to a reader, but still replaces an earlier value when
two bags are laid over each other.
-/

namespace CardPayments

/-- Named values, in the order in which the names first appeared. -/
abbrev Bag := List (String × Value)

namespace Bag

/-- The value under a name. -/
def get? (bag : Bag) (key : String) : Option Value := List.lookup key bag

/-- Whether the name is there, with or without a value. -/
def has (bag : Bag) (key : String) : Bool := (bag.get? key).isSome

/-- Puts a value under a name: in its place when the name is there, otherwise at the end. -/
def put (bag : Bag) (key : String) (value : Value) : Bag :=
  if bag.has key then bag.map fun entry => if entry.1 == key then (key, value) else entry
  else bag ++ [(key, value)]

/-- Puts a value under a name that is not there yet. -/
def putNew (bag : Bag) (key : String) (value : Value) : Bag :=
  if bag.has key then bag else bag.put key value

/-- Lays one bag over another: the upper one wins. -/
def onto (upper lower : Bag) : Bag := upper.foldl (fun bag entry => bag.put entry.1 entry.2) lower

/-- Lays bags over each other; the last one wins. -/
def merge (bags : List Bag) : Bag := bags.foldl (fun lower upper => upper.onto lower) []

/-- The text of a property that has a value. -/
def text? (bag : Bag) (key : String) : Option String := (bag.get? key).bind Value.toText?

/-- The text of a property, or the fallback when it has no value. -/
def textOr (bag : Bag) (key : String) (fallback : Option String) : Option String :=
  (bag.text? key).or fallback

/-- Whether a property stands for yes. -/
def affirms (bag : Bag) (key : String) : Bool :=
  match bag.text? key with
  | some s => Value.affirmative s
  | none => false

/-- The bag as a store keeps it. -/
def storable (bag : Bag) : Bag := Value.storableEntries bag

/-- Whether a bag has all of the properties already, with values that agree. -/
def covers (bag properties : Bag) : Bool := Value.agreeEntries properties bag

/-- The bag without the properties that have no value. -/
def withoutNulls (bag : Bag) : Bag := bag.filter fun entry => !entry.2.isNull

@[simp] theorem get?_nil (key : String) : get? [] key = none := rfl

theorem get?_cons (entry : String × Value) (bag : Bag) (key : String) :
    get? (entry :: bag) key = if key = entry.1 then some entry.2 else get? bag key := by
  obtain ⟨k, v⟩ := entry
  unfold get?
  by_cases h : key = k
  · subst h; simp
  · simp [List.lookup_cons, h, beq_eq_false_iff_ne.2 h]

theorem get?_append (a b : Bag) (key : String) :
    get? (a ++ b) key = (get? a key).or (get? b key) := by
  induction a with
  | nil => simp
  | cons entry a ih =>
    rw [List.cons_append, get?_cons, get?_cons, ih]
    split <;> simp

theorem get?_replace (bag : Bag) (key name : String) (value : Value) :
    get? (bag.map fun entry => if entry.1 == key then (key, value) else entry) name =
      if name = key then (get? bag key).map fun _ => value else get? bag name := by
  induction bag with
  | nil => simp
  | cons entry bag ih =>
    rw [List.map_cons, get?_cons, get?_cons, get?_cons, ih]
    by_cases h : entry.1 = key
    · simp only [h, beq_self_eq_true, if_true]
      by_cases hn : name = key <;> simp [hn]
    · have h' : key ≠ entry.1 := fun e => h e.symm
      simp only [beq_iff_eq, h, h', if_false]
      by_cases hn : name = key
      · subst hn; simp [h']
      · simp [hn]

/-- A put value is found under its name, and nothing changes under the others. -/
theorem get?_put (bag : Bag) (key name : String) (value : Value) :
    get? (bag.put key value) name = if name = key then some value else get? bag name := by
  unfold put has
  split
  · rename_i h
    obtain ⟨v, hv⟩ := Option.isSome_iff_exists.1 h
    rw [get?_replace]
    split <;> simp [hv]
  · rename_i h
    have hn : get? bag key = none := by simpa using h
    rw [get?_append, get?_cons, get?_nil]
    split
    · rename_i hk; subst hk; simp [hn]
    · simp

end Bag

end CardPayments
