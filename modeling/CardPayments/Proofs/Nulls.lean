import CardPayments.Proofs.Merge

/-!
# Properties without a value

A reader does not see whether a property is null or absent, so a bag reads as it does without its
nulls. Laying bags over each other goes along with leaving out names, but not with leaving out
nulls: a null that lies over a value hides it.
-/

namespace CardPayments

/-- The store keeps nulls, and nothing else as null. -/
theorem Value.isNull_storable (v : Value) : v.storable.isNull = v.isNull := by
  cases v <;> simp only [storable] <;> rfl

/-- A value has a text unless it is null. -/
theorem Value.toText?_eq_none_iff {v : Value} : v.toText? = none ↔ v = .null := by
  cases v <;> simp [toText?, isNull]

namespace Bag

/-! ## Reading without nulls -/

theorem distinct_filter {bag : Bag} (h : bag.Distinct) (p : String × Value → Bool) :
    Distinct (bag.filter p) := h.sublist (List.filter_sublist.map _)

theorem distinct_withoutNulls {bag : Bag} (h : bag.Distinct) : bag.withoutNulls.Distinct :=
  distinct_filter h _

/-- A table without its nulls has its other values. -/
theorem get?_withoutNulls {bag : Bag} (h : bag.Distinct) (key : String) :
    get? bag.withoutNulls key = (get? bag key).filter fun v => !v.isNull := by
  induction bag with
  | nil => rfl
  | cons entry bag ih =>
    obtain ⟨hfirst, hrest⟩ : entry.1 ∉ bag.map Prod.fst ∧ Distinct bag := List.nodup_cons.1 h
    have hcons : withoutNulls (entry :: bag) =
        if entry.2.isNull then withoutNulls bag else entry :: withoutNulls bag := by
      unfold withoutNulls
      rw [List.filter_cons]
      cases entry.2.isNull <;> rfl
    rw [hcons, get?_cons]
    by_cases hkey : key = entry.1
    · rw [if_pos hkey, Option.filter_some]
      by_cases hnull : entry.2.isNull = true
      · simp only [hnull, if_true, Bool.not_true, Bool.false_eq_true, if_false]
        rw [ih hrest, hkey, get?_eq_none hfirst]
        rfl
      · simp only [hnull, Bool.false_eq_true, if_false, Bool.not_false, if_true]
        rw [get?_cons, if_pos hkey]
    · rw [if_neg hkey, ← ih hrest]
      split
      · rfl
      · rw [get?_cons, if_neg hkey]

/-- A table reads as it does without its nulls. -/
theorem text?_withoutNulls {bag : Bag} (h : bag.Distinct) (key : String) :
    text? bag.withoutNulls key = text? bag key := by
  unfold text?
  rw [get?_withoutNulls h]
  cases get? bag key with
  | none => rfl
  | some v =>
    rw [Option.filter_some]
    cases hnull : v.isNull <;> simp [Value.toText?, hnull]

theorem affirms_withoutNulls {bag : Bag} (h : bag.Distinct) (key : String) :
    affirms bag.withoutNulls key = affirms bag key := by
  simp only [affirms, text?_withoutNulls h]

/-- The store keeps a table without its nulls as it keeps the table, without its nulls. -/
theorem storable_withoutNulls (bag : Bag) :
    bag.withoutNulls.storable = bag.storable.withoutNulls := by
  unfold withoutNulls
  rw [storable_eq_map, storable_eq_map, List.filter_map]
  congr 1
  refine List.filter_congr fun entry _ => ?_
  rw [Function.comp, Value.isNull_storable]

theorem distinct_storable {bag : Bag} (h : bag.Distinct) : bag.storable.Distinct := by
  unfold Distinct
  rw [storable_eq_map, List.map_map]
  exact h

/-- A property that a table does not give as null may be added before or after the nulls are left
out. -/
theorem withoutNulls_putNew {bag : Bag} (h : bag.Distinct) {key : String} {value : Value}
    (hkey : get? bag key ≠ some .null) (hvalue : value.isNull = false) :
    (bag.putNew key value).withoutNulls = bag.withoutNulls.putNew key value := by
  have hhas : bag.withoutNulls.has key = bag.has key := by
    unfold has
    rw [get?_withoutNulls h]
    cases hget : get? bag key with
    | none => rfl
    | some v =>
      have hnull : v.isNull = false := by
        cases v <;> first | rfl | exact absurd hget hkey
      simp [hnull]
  unfold putNew
  rw [hhas]
  split
  · rfl
  · rename_i hnew
    unfold put
    rw [hhas, if_neg hnew, if_neg hnew]
    simp [withoutNulls, hvalue]

/-! ## Leaving out names -/

/-- Putting a value under a name goes along with leaving out other names. -/
theorem filter_put (p : String → Bool) (bag : Bag) (key : String) (value : Value) :
    (bag.put key value).filter (fun entry => p entry.1) =
      if p key then put (bag.filter fun entry => p entry.1) key value
      else bag.filter fun entry => p entry.1 := by
  have hreplace : (bag.map fun entry => if entry.1 == key then (key, value) else entry).filter
      (fun entry => p entry.1) = (bag.filter fun entry => p entry.1).map
        fun entry => if entry.1 == key then (key, value) else entry := by
    rw [List.filter_map]
    congr 1
    refine List.filter_congr fun entry _ => ?_
    rw [Function.comp]
    split
    · rename_i hkey
      rw [beq_iff_eq.1 hkey]
    · rfl
  by_cases hp : p key = true
  · have hhas : has (bag.filter fun entry => p entry.1) key = has bag key := by
      rw [Bool.eq_iff_iff, has_iff, has_iff]
      simp only [List.mem_map, List.mem_filter]
      constructor
      · rintro ⟨entry, ⟨hmem, -⟩, rfl⟩
        exact ⟨entry, hmem, rfl⟩
      · rintro ⟨entry, hmem, rfl⟩
        exact ⟨entry, ⟨hmem, hp⟩, rfl⟩
    rw [if_pos hp]
    unfold put
    rw [hhas]
    split
    · exact hreplace
    · simp [hp]
  · rw [if_neg hp]
    unfold put
    split
    · rw [hreplace]
      refine (List.map_congr_left fun entry hentry => ?_).trans (List.map_id _)
      have hkept := (List.mem_filter.1 hentry).2
      rw [if_neg]
      · rfl
      · intro hkey
        rw [beq_iff_eq.1 hkey] at hkept
        exact hp hkept
    · simp [hp]

/-- Laying bags over each other goes along with leaving out names. -/
theorem filter_onto (p : String → Bool) (upper lower : Bag) :
    (upper.onto lower).filter (fun entry => p entry.1) =
      onto (upper.filter fun entry => p entry.1) (lower.filter fun entry => p entry.1) := by
  induction upper generalizing lower with
  | nil => rfl
  | cons entry upper ih =>
    rw [onto_cons, ih, filter_put, List.filter_cons]
    split
    · rw [onto_cons]
    · rfl

end Bag

end CardPayments
