import CardPayments.Proofs.Bag
import CardPayments.Proofs.Store

/-!
# Laying properties over a row twice

What the store keeps it keeps as it is when it is kept once more, and keeping goes along with laying
bags over each other. So properties that are laid over a row for the second time change nothing.
-/

namespace CardPayments

namespace Value

mutual

/-- What the store has rewritten stays as it is. -/
theorem storable_storable : ∀ v : Value, v.storable.storable = v.storable
  | .null => by simp only [storable]
  | .bool _ => by simp only [storable]
  | .int _ => by simp only [storable]
  | .float _ => by simp only [storable]
  | .decimal _ => by simp only [storable]
  | .text _ => by simp only [storable]
  | .brokenText _ => by simp only [storable]
  | .list items => by simp only [storable, storableItems_storableItems items]
  | .table entries => by simp only [storable, storableEntries_storableEntries entries]

theorem storableItems_storableItems : ∀ items : List Value,
    storableItems (storableItems items) = storableItems items
  | [] => rfl
  | item :: items => by
    simp only [storableItems, storable_storable item, storableItems_storableItems items]

theorem storableEntries_storableEntries : ∀ entries : List (String × Value),
    storableEntries (storableEntries entries) = storableEntries entries
  | [] => rfl
  | (key, value) :: entries => by
    simp only [storableEntries, storable_storable value, storableEntries_storableEntries entries]

end

end Value

namespace Bag

/-- The store keeps a bag entry by entry. -/
theorem storable_eq_map (bag : Bag) :
    bag.storable = bag.map fun entry => (entry.1, entry.2.storable) := by
  induction bag with
  | nil => rfl
  | cons entry bag ih =>
    rw [List.map_cons, ← ih]
    simp only [storable, Value.storableEntries]

theorem storable_storable (bag : Bag) : bag.storable.storable = bag.storable :=
  Value.storableEntries_storableEntries bag

/-- A value that is put into a bag is kept in its place. -/
theorem storable_put (bag : Bag) (key : String) (value : Value) :
    (bag.put key value).storable = bag.storable.put key value.storable := by
  unfold put
  rw [has_storable]
  by_cases hkey : bag.has key = true
  · rw [if_pos hkey, if_pos hkey]
    simp only [storable_eq_map, List.map_map]
    apply List.map_congr_left
    intro entry _
    simp only [Function.comp]
    split <;> rfl
  · rw [if_neg hkey, if_neg hkey]
    simp only [storable_eq_map, List.map_append, List.map_cons, List.map_nil]

/-- Keeping goes along with laying bags over each other. -/
theorem storable_onto (upper lower : Bag) :
    (upper.onto lower).storable = upper.storable.onto lower.storable := by
  induction upper generalizing lower with
  | nil => rfl
  | cons entry upper ih =>
    have hcons : storable (entry :: upper) = (entry.1, entry.2.storable) :: storable upper := by
      simp only [storable_eq_map, List.map_cons]
    rw [onto_cons, ih, storable_put, hcons, onto_cons]

/-- An entry of a bag into which a value was put is that value, or was there under another name. -/
theorem mem_put {bag : Bag} {key : String} {value : Value} {entry : String × Value}
    (h : entry ∈ bag.put key value) : entry = (key, value) ∨ entry ∈ bag ∧ entry.1 ≠ key := by
  unfold put at h
  split at h
  · obtain ⟨old, hold, rfl⟩ := List.mem_map.1 h
    by_cases hkey : old.1 = key
    · left
      rw [if_pos (beq_iff_eq.2 hkey)]
    · right
      rw [if_neg (mt beq_iff_eq.1 hkey)]
      exact ⟨hold, hkey⟩
  · rename_i hnew
    rcases List.mem_append.1 h with hold | hlast
    · right
      refine ⟨hold, fun hkey => hnew ?_⟩
      rw [has_iff, ← hkey]
      exact List.mem_map_of_mem hold
    · left
      exact List.mem_singleton.1 hlast

/-- An entry of a bag with another one over it is the last one of the upper bag under its name, or
it was there under a name that the upper bag does not have. -/
theorem mem_onto {upper lower : Bag} {entry : String × Value} (h : entry ∈ upper.onto lower) :
    get? upper.reverse entry.1 = some entry.2 ∨
      entry ∈ lower ∧ entry.1 ∉ upper.map Prod.fst := by
  induction upper generalizing lower with
  | nil => exact Or.inr ⟨h, List.not_mem_nil⟩
  | cons first upper ih =>
    rw [List.reverse_cons, get?_append]
    rw [onto_cons] at h
    obtain hupper | ⟨hput, hother⟩ := ih h
    · left
      rw [hupper, Option.some_or]
    · have hnone : get? upper.reverse entry.1 = none :=
        get?_eq_none (by rwa [List.map_reverse, List.mem_reverse])
      obtain hfirst | ⟨hold, hkey⟩ := mem_put hput
      · left
        rw [hnone, Option.none_or, hfirst, get?_cons, if_pos rfl]
      · right
        refine ⟨hold, fun hmem => ?_⟩
        rw [List.map_cons, List.mem_cons] at hmem
        exact hmem.elim hkey hother

/-- Over a bag that has all its names, a bag replaces each value by its own last one. -/
theorem onto_eq_map {upper bag : Bag} (h : ∀ entry ∈ upper, bag.has entry.1 = true) :
    upper.onto bag =
      bag.map fun entry => (entry.1, (get? upper.reverse entry.1).getD entry.2) := by
  induction upper generalizing bag with
  | nil => exact (List.map_id bag).symm
  | cons first upper ih =>
    have hfirst := h first List.mem_cons_self
    have hrest : ∀ entry ∈ upper, (bag.put first.1 first.2).has entry.1 = true := by
      intro entry hentry
      have hhas := h entry (List.mem_cons_of_mem _ hentry)
      unfold has at hhas ⊢
      rw [get?_put]
      split
      · rfl
      · exact hhas
    rw [onto_cons, ih hrest]
    unfold put
    rw [if_pos hfirst, List.map_map]
    apply List.map_congr_left
    intro entry _
    simp only [Function.comp, List.reverse_cons, get?_append, get?_cons, get?_nil, beq_iff_eq]
    by_cases hkey : entry.1 = first.1
    · simp only [hkey, if_true]
      cases get? upper.reverse first.1 <;> rfl
    · simp only [if_neg hkey, Option.or_none]

/-- A bag that is laid over another one once more changes nothing. -/
theorem onto_onto (upper lower : Bag) : upper.onto (upper.onto lower) = upper.onto lower := by
  have hhas : ∀ entry ∈ upper, (upper.onto lower).has entry.1 = true := by
    intro entry hentry
    rw [has_onto, has_iff.2 (List.mem_map_of_mem hentry), Bool.true_or]
  rw [onto_eq_map hhas]
  refine (List.map_congr_left fun entry hentry => ?_).trans (List.map_id _)
  obtain hupper | ⟨-, hother⟩ := mem_onto hentry
  · rw [hupper]
    rfl
  · have hnone : get? upper.reverse entry.1 = none :=
      get?_eq_none (by rwa [List.map_reverse, List.mem_reverse])
    rw [hnone]
    rfl

end Bag

/-- A text that has replaced another one is replaced by itself. -/
theorem ResponseRecord.replaceBy_replaceBy (old new : Option String) :
    replaceBy (replaceBy old new) new = replaceBy old new := by
  cases new with
  | none => rfl
  | some s =>
    by_cases hs : s = ""
    · simp only [replaceBy, if_pos hs]
    · simp only [replaceBy, if_neg hs]

namespace Row

/-- Properties that the row has already stay as they are. -/
theorem additionalData_merge_of_covers {row : Row} {properties : Bag}
    (h : row.record.additionalData.covers properties.storable = true) :
    (row.merge properties).record.additionalData = row.record.additionalData := if_pos h

/-- Otherwise the properties of the row are written anew. -/
theorem additionalData_merge_of_not_covers {row : Row} {properties : Bag}
    (h : ¬ row.record.additionalData.covers properties.storable = true) :
    (row.merge properties).record.additionalData =
      properties.storable.onto row.record.additionalData.storable :=
  (if_neg h).trans (Bag.storable_onto _ _)

end Row

end CardPayments
