import CardPayments.Proofs.Precedence

/-!
# Properties laid over a record in turn

Bags that are laid over a record one after the other leave the union of all of them, in which the
last bag that has a name decides, be it for a null. The gateway reference and the authorization code
follow another rule: there the last bag decides that has a text which is not empty. So the columns
need not agree with the bag. Bags that share no name may change places.
-/

namespace CardPayments

namespace Bag

/-- The value under a name in the last of the bags that have it. -/
def last? (bags : List Bag) (key : String) : Option Value :=
  bags.reverse.findSome? fun bag => bag.get? key

/-- The last text under a name that is not empty. -/
def lastText? (bags : List Bag) (key : String) : Option String :=
  bags.reverse.findSome? fun bag => nonEmpty (bag.text? key)

/-- Before the last bag that has a name comes the first bag. -/
theorem last?_cons (bag : Bag) (bags : List Bag) (key : String) :
    last? (bag :: bags) key = (last? bags key).or (bag.get? key) := by
  simp [last?, List.findSome?_append]

theorem lastText?_cons (bag : Bag) (bags : List Bag) (key : String) :
    lastText? (bag :: bags) key = (lastText? bags key).or (nonEmpty (bag.text? key)) := by
  simp [lastText?, List.findSome?_append]

/-- Where several tables lie over each other, a name is looked up in the last one that has it. -/
theorem get?_foldl_onto {bags : List Bag} (tables : ∀ bag ∈ bags, bag.Distinct) (lowest : Bag)
    (key : String) : get? (bags.foldl (fun lower upper => upper.onto lower) lowest) key =
      (last? bags key).or (get? lowest key) := by
  induction bags generalizing lowest with
  | nil => rfl
  | cons bag bags ih =>
    obtain ⟨hfirst, hrest⟩ := List.forall_mem_cons.1 tables
    rw [List.foldl_cons, ih hrest, get?_onto_of_distinct hfirst, last?_cons, Option.or_assoc]

/-! ## Changing places -/

/-- Putting a value into the same entries in another order gives the same entries. -/
theorem put_perm {a b : Bag} (h : a.Perm b) (key : String) (value : Value) :
    (a.put key value).Perm (b.put key value) := by
  have hhas : a.has key = b.has key := by
    rw [Bool.eq_iff_iff, has_iff, has_iff, (h.map Prod.fst).mem_iff]
  unfold put
  rw [hhas]
  split
  · exact h.map _
  · exact h.append_right _

theorem onto_perm {a b : Bag} (h : a.Perm b) (upper : Bag) :
    (upper.onto a).Perm (upper.onto b) := by
  induction upper generalizing a b with
  | nil => exact h
  | cons entry upper ih => exact ih (put_perm h entry.1 entry.2)

/-- Putting a value under one name does not bring or take another name. -/
theorem has_put_of_ne (bag : Bag) {key name : String} (h : name ≠ key) (value : Value) :
    (bag.put key value).has name = bag.has name := by
  unfold has
  rw [get?_put, if_neg h]

/-- Values under different names may be put in either order. -/
theorem put_put_perm (bag : Bag) {key name : String} (h : key ≠ name) (v w : Value) :
    ((bag.put key v).put name w).Perm ((bag.put name w).put key v) := by
  have hname := has_put_of_ne bag h.symm v
  have hkey := has_put_of_ne bag h w
  have hreplace : ∀ entries : Bag,
      ((entries.map fun e => if e.1 == key then (key, v) else e).map fun e =>
        if e.1 == name then (name, w) else e) =
      (entries.map fun e => if e.1 == name then (name, w) else e).map fun e =>
        if e.1 == key then (key, v) else e := by
    intro entries
    rw [List.map_map, List.map_map]
    refine List.map_congr_left fun entry _ => ?_
    by_cases hk : entry.1 = key <;> by_cases hn : entry.1 = name <;> simp_all
  -- A name that is there keeps its place, another one goes to the end. So the order of the entries
  -- differs only where both names are new.
  unfold put at hname hkey ⊢
  rw [hname, hkey]
  by_cases hasKey : bag.has key = true <;> by_cases hasName : bag.has name = true
  · simp only [if_pos hasKey, if_pos hasName]
    exact .of_eq (hreplace bag)
  · simp only [if_pos hasKey, if_neg hasName, List.map_append]
    simp [h.symm]
  · simp only [if_neg hasKey, if_pos hasName, List.map_append]
    simp [h]
  · simp only [if_neg hasKey, if_neg hasName, List.append_assoc]
    exact (List.Perm.swap _ _ []).append_left bag

/-- A value under a name that a bag does not have may be put before the bag is laid over it, or
afterwards. -/
theorem onto_put_perm {upper : Bag} {key : String} (h : key ∉ upper.map Prod.fst) (lower : Bag)
    (value : Value) :
    (upper.onto (lower.put key value)).Perm ((upper.onto lower).put key value) := by
  induction upper generalizing lower with
  | nil => exact .refl _
  | cons entry upper ih =>
    simp only [List.map_cons, List.mem_cons, not_or] at h
    rw [onto_cons, onto_cons]
    exact (onto_perm (put_put_perm lower h.1 value entry.2) upper).trans (ih h.2 _)

/-- Whether two bags share no name. -/
def Disjoint (p q : Bag) : Prop := ∀ key ∈ p.map Prod.fst, key ∉ q.map Prod.fst

/-- Bags that share no name may be laid over another one in either order. -/
theorem onto_onto_perm {p q : Bag} (h : Disjoint p q) (lower : Bag) :
    (p.onto (q.onto lower)).Perm (q.onto (p.onto lower)) := by
  induction p generalizing lower with
  | nil => exact .refl _
  | cons entry p ih =>
    obtain ⟨hfirst, hrest⟩ := List.forall_mem_cons.1 h
    rw [onto_cons, onto_cons]
    exact (onto_perm (onto_put_perm hfirst lower entry.2) p).symm.trans (ih hrest _)

/-- What stands under a name is then the same. -/
theorem get?_onto_onto {p q : Bag} (h : Disjoint p q) (lower : Bag) (key : String) :
    get? (p.onto (q.onto lower)) key = get? (q.onto (p.onto lower)) key := by
  by_cases hkey : key ∈ p.map Prod.fst
  · rw [get?_onto_of_not_mem (h key hkey), get?_onto, get?_onto p,
      get?_onto_of_not_mem (h key hkey)]
  · rw [get?_onto_of_not_mem hkey, get?_onto, get?_onto q, get?_onto_of_not_mem hkey]

end Bag

namespace ResponseRecord

/-- A column follows a bag that has a text for it. -/
theorem replaceBy_eq (old new : Option String) : replaceBy old new = (nonEmpty new).or old := by
  cases new with
  | none => rfl
  | some s =>
    simp only [replaceBy, nonEmpty]
    split <;> rfl

/-- Laying bags over a record in turn touches its bag and two of its columns, and each of these
follows the last of the bags that has a text for it. -/
theorem foldl_mergeProperties (record : ResponseRecord) (bags : List Bag) :
    bags.foldl mergeProperties record = { record with
      additionalData := bags.foldl (fun lower upper => upper.onto lower) record.additionalData
      pspReference := (Bag.lastText? bags Property.pspReference).or record.pspReference
      authCode := (Bag.lastText? bags Property.authCode).or record.authCode } := by
  induction bags generalizing record with
  | nil => rfl
  | cons bag bags ih =>
    rw [List.foldl_cons, ih, Bag.lastText?_cons, Bag.lastText?_cons, Option.or_assoc,
      Option.or_assoc, ← replaceBy_eq, ← replaceBy_eq]
    rfl

/-- A record in which the same properties are laid over it once more stays as it is. -/
theorem mergeProperties_mergeProperties (record : ResponseRecord) (bag : Bag) :
    (record.mergeProperties bag).mergeProperties bag = record.mergeProperties bag := by
  simp only [mergeProperties, Bag.onto_onto, replaceBy_replaceBy]

/-- Columns that follow bags that share no name follow them in either order. -/
theorem replaceBy_comm {p q : Bag} (h : Bag.Disjoint p q) (old : Option String) (key : String) :
    replaceBy (replaceBy old (p.text? key)) (q.text? key) =
      replaceBy (replaceBy old (q.text? key)) (p.text? key) := by
  have silent {bag : Bag} (hbag : key ∉ bag.map Prod.fst) : bag.text? key = none := by
    rw [Bag.text?, Bag.get?_eq_none hbag]
    rfl
  by_cases hkey : key ∈ p.map Prod.fst
  · rw [silent (h key hkey)]
    rfl
  · rw [silent hkey]
    rfl

/-- Whether two records are the same but for the order of their properties. -/
structure SameUpToOrder (a b : ResponseRecord) : Prop where
  /-- They have the same columns. -/
  columns : a = { b with additionalData := a.additionalData }
  /-- They have the same properties. -/
  entries : a.additionalData.Perm b.additionalData
  /-- The same value is found under every name. -/
  values : ∀ key, a.additionalData.get? key = b.additionalData.get? key

/-- Properties that share no name may be laid over a record in either order. -/
theorem mergeProperties_comm {p q : Bag} (h : Bag.Disjoint p q) (record : ResponseRecord) :
    SameUpToOrder ((record.mergeProperties p).mergeProperties q)
      ((record.mergeProperties q).mergeProperties p) where
  columns := by simp only [mergeProperties, replaceBy_comm h]
  entries := (Bag.onto_onto_perm h record.additionalData).symm
  values key := (Bag.get?_onto_onto h record.additionalData key).symm

/-- Laid over a record in turn, tables of properties leave every name with its value in the last of
them that has it, the gateway reference and the authorization code with the last text for them that
is not empty, and all else as it was. To lay the same properties over a record twice is to do it
once, and properties that share no name may change places. -/
theorem merges_add_up (record : ResponseRecord) (bags : List Bag)
    (tables : ∀ bag ∈ bags, bag.Distinct) :
    (∃ data, bags.foldl mergeProperties record = { record with
        additionalData := data
        pspReference := (Bag.lastText? bags Property.pspReference).or record.pspReference
        authCode := (Bag.lastText? bags Property.authCode).or record.authCode } ∧
      (∀ key, data.get? key = (Bag.last? bags key).or (record.additionalData.get? key)) ∧
      (record.additionalData.Distinct → data.Distinct)) ∧
    (∀ bag, (record.mergeProperties bag).mergeProperties bag = record.mergeProperties bag) ∧
    ∀ p q, Bag.Disjoint p q → SameUpToOrder ((record.mergeProperties p).mergeProperties q)
      ((record.mergeProperties q).mergeProperties p) := by
  refine ⟨⟨_, foldl_mergeProperties record bags, ?_, ?_⟩, mergeProperties_mergeProperties record,
    fun p q apart => mergeProperties_comm apart record⟩
  · exact Bag.get?_foldl_onto tables record.additionalData
  · exact fun h => Bag.distinct_foldl_onto h bags

/-- A reference that is taken back, first by a null and then by an empty text, stays in its column
and is gone from the bag. -/
theorem merges_add_up_drifting :
    let record : ResponseRecord :=
      { accountId := "acc-1", paymentId := "pay-1", transactionId := "tx-1", kind := .authorize
        amount := none, currency := none, additionalData := [(Property.reason, .text "late")] }
    let merged := [[(Property.pspReference, .int 7), (Property.reason, .null)],
      [(Property.pspReference, .null)], [(Property.pspReference, .text "")]].foldl
        mergeProperties record
    merged.pspReference = some "7" ∧
      merged.additionalData.get? Property.pspReference = some (.text "") ∧
      merged.additionalData.get? Property.reason = some .null := by
  intro record merged
  obtain ⟨⟨data, hmerged, hdata, -⟩, -⟩ := merges_add_up record
    [[(Property.pspReference, .int 7), (Property.reason, .null)],
      [(Property.pspReference, .null)], [(Property.pspReference, .text "")]] (by decide)
  refine ⟨?_, ?_, ?_⟩
  · exact congrArg ResponseRecord.pspReference hmerged
  · exact (congrArg (·.additionalData.get? Property.pspReference) hmerged).trans (hdata _)
  · exact (congrArg (·.additionalData.get? Property.reason) hmerged).trans (hdata _)

end ResponseRecord

end CardPayments
