import CardPayments.Bag
import Mathlib.Tactic.ByContra

/-!
# Laying bags over each other

A bag laid over another one answers first, with its last entry under a name. Where every name stands
for one entry, as in a table, the upper bag is asked under the name itself.
-/

namespace CardPayments.Bag

/-- A table has every name once. -/
def Distinct (bag : Bag) : Prop := (bag.map Prod.fst).Nodup

instance : DecidablePred Distinct := fun bag => inferInstanceAs (Decidable (bag.map Prod.fst).Nodup)

/-- Laying an entry more is laying the rest over a bag into which the entry was put. -/
theorem onto_cons (entry : String × Value) (upper lower : Bag) :
    onto (entry :: upper) lower = upper.onto (lower.put entry.1 entry.2) := rfl

/-- A name is looked up in the upper bag, from its last entry on, and then in the lower one. -/
theorem get?_onto (upper lower : Bag) (key : String) :
    get? (upper.onto lower) key = (get? upper.reverse key).or (get? lower key) := by
  induction upper generalizing lower with
  | nil => rfl
  | cons entry upper ih =>
    rw [onto_cons, ih, get?_put, List.reverse_cons, get?_append, Option.or_assoc]
    congr 1
    rw [get?_cons, get?_nil]
    split <;> simp

/-- A name that no entry bears is not found. -/
theorem get?_eq_none {bag : Bag} {key : String} (h : key ∉ bag.map Prod.fst) :
    get? bag key = none := by
  induction bag with
  | nil => rfl
  | cons entry bag ih =>
    simp only [List.map_cons, List.mem_cons, not_or] at h
    rw [get?_cons, if_neg h.1, ih h.2]

/-- What is found is an entry. -/
theorem mem_of_get? {bag : Bag} {key : String} {value : Value} (h : get? bag key = some value) :
    (key, value) ∈ bag := by
  obtain ⟨before, behind, rfl, -⟩ := List.lookup_eq_some_iff.1 h
  exact List.mem_append_right _ List.mem_cons_self

/-- Laying new names over a bag puts them behind it. -/
theorem onto_eq_append {upper lower : Bag} (h : Distinct (lower ++ upper)) :
    upper.onto lower = lower ++ upper := by
  induction upper generalizing lower with
  | nil => exact (List.append_nil lower).symm
  | cons entry upper ih =>
    have hnew : lower.has entry.1 = false := by
      have hnames := h
      rw [Distinct, List.map_append, List.nodup_append] at hnames
      have hnone : get? lower entry.1 = none :=
        get?_eq_none fun hmem => hnames.2.2 _ hmem _ List.mem_cons_self rfl
      rw [has, hnone]
      rfl
    have hput : lower.put entry.1 entry.2 = lower ++ [entry] := by
      rw [put, if_neg (by simp [hnew])]
    rw [onto_cons, hput, ih (by simpa using h)]
    simp

/-- A bag with every name once is found again when it is laid on nothing. -/
theorem onto_nil_of_distinct {bag : Bag} (h : bag.Distinct) : bag.onto [] = bag := onto_eq_append h

/-- An entry is found where every name is there once. -/
theorem get?_of_mem {bag : Bag} (h : bag.Distinct) {entry : String × Value} (hmem : entry ∈ bag) :
    get? bag entry.1 = some entry.2 := by
  induction bag with
  | nil => cases hmem
  | cons first bag ih =>
    obtain ⟨hfirst, hrest⟩ : first.1 ∉ bag.map Prod.fst ∧ Distinct bag := List.nodup_cons.1 h
    rw [get?_cons]
    rcases List.mem_cons.1 hmem with rfl | hmem
    · exact if_pos rfl
    · have hne : entry.1 ≠ first.1 := fun heq => hfirst (heq ▸ List.mem_map_of_mem hmem)
      rw [if_neg hne, ih hrest hmem]

/-- The order of entries does not matter where every name is there once. -/
theorem get?_reverse {bag : Bag} (h : bag.Distinct) (key : String) :
    get? bag.reverse key = get? bag key := by
  induction bag with
  | nil => rfl
  | cons entry bag ih =>
    have hs : entry.1 ∉ bag.map Prod.fst ∧ (bag.map Prod.fst).Nodup := List.nodup_cons.mp h
    rw [List.reverse_cons, get?_append, ih hs.2, get?_cons, get?_cons, get?_nil]
    by_cases hk : key = entry.1
    · subst hk
      simp only [get?_eq_none hs.1, if_true, Option.none_or]
    · simp only [if_neg hk, Option.or_none]

/-- A table is asked before the bag under it. -/
theorem get?_onto_of_distinct {upper : Bag} (h : upper.Distinct) (lower : Bag) (key : String) :
    get? (upper.onto lower) key = (get? upper key).or (get? lower key) := by
  rw [get?_onto, get?_reverse h]

/-- A bag that has no entry under a name shows what lies under it. -/
theorem get?_onto_of_not_mem {upper : Bag} {key : String} (h : key ∉ upper.map Prod.fst)
    (lower : Bag) : get? (upper.onto lower) key = get? lower key := by
  have hr : key ∉ upper.reverse.map Prod.fst := by
    rw [List.map_reverse, List.mem_reverse]
    exact h
  rw [get?_onto, get?_eq_none hr, Option.none_or]

/-- Putting a value under a new name leaves the other names as they are. -/
theorem get?_putNew_of_ne (bag : Bag) {key name : String} (h : name ≠ key) (value : Value) :
    get? (bag.putNew key value) name = get? bag name := by
  unfold putNew
  split
  · rfl
  · rw [get?_put, if_neg h]

/-- The text of a property depends on its look-up alone. -/
theorem text?_congr {a b : Bag} {key : String} (h : get? a key = get? b key) :
    text? a key = text? b key := congrArg (·.bind Value.toText?) h

/-- Putting a value under another name leaves the text of a property as it is. -/
theorem text?_put_of_ne (bag : Bag) {key name : String} (h : name ≠ key) (value : Value) :
    text? (bag.put key value) name = text? bag name :=
  text?_congr (by rw [get?_put, if_neg h])

/-- Whether a property stands for yes depends on its look-up alone. -/
theorem affirms_congr {a b : Bag} {key : String} (h : get? a key = get? b key) :
    affirms a key = affirms b key := by
  simp only [affirms, text?_congr h]

/-- What is kept under a name is what stood under it, as it is kept. -/
theorem get?_storable (bag : Bag) (key : String) :
    get? bag.storable key = (get? bag key).map Value.storable := by
  induction bag with
  | nil => rfl
  | cons entry bag ih =>
    have hcons : storable (entry :: bag) = (entry.1, entry.2.storable) :: storable bag := by
      simp only [storable, Value.storableEntries]
    rw [hcons, get?_cons, get?_cons, ih]
    split <;> rfl

/-- A bag has the names of its entries. -/
theorem has_iff {bag : Bag} {key : String} : bag.has key = true ↔ key ∈ bag.map Prod.fst := by
  constructor
  · intro h
    by_contra hkey
    rw [has, get?_eq_none hkey] at h
    cases h
  · intro h
    induction bag with
    | nil => cases h
    | cons entry bag ih =>
      unfold has at ih ⊢
      rw [get?_cons]
      by_cases hkey : key = entry.1
      · rw [if_pos hkey]
        rfl
      · rw [if_neg hkey]
        exact ih ((List.mem_cons.1 h).resolve_left hkey)

/-- The store keeps every name. -/
theorem has_storable (bag : Bag) (key : String) : has bag.storable key = has bag key := by
  unfold has
  rw [get?_storable, Option.isSome_map]

/-- A bag with another one over it has the names of both. -/
theorem has_onto (upper lower : Bag) (key : String) :
    has (upper.onto lower) key = (upper.has key || lower.has key) := by
  have hreverse : has upper.reverse key = has upper key := by
    rw [Bool.eq_iff_iff, has_iff, has_iff, List.map_reverse, List.mem_reverse]
  rw [has, get?_onto, Option.isSome_or, ← has, ← has, hreverse]

end CardPayments.Bag
