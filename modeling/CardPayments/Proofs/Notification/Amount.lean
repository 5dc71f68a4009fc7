import CardPayments.Notification.Item
import CardPayments.Proofs.Checked
import CardPayments.Proofs.Json.Numeral
import CardPayments.Proofs.MinorUnit
import Mathlib.Data.List.Forall2

/-!
# Reported amounts

The minor units of an amount come from a whole number, a text, a double or a truth value, and none
of them gives a number of more digits than a numeral may have. So every item of a batch that passes
the check can be priced, and a batch is refused for its defects alone.
-/

namespace CardPayments

open Json

/-- A whole number that passes the check is below the bound, where it was no larger before. -/
theorem Checked.int_lt {v : Value} {n : Int} (h : int v = .ok n)
    (hint : ∀ m : Int, v = .int m → m.natAbs < 10 ^ Text.maxNumeralLength) :
    n.natAbs < 10 ^ Text.maxNumeralLength := by
  have hword : 9223372036854775808 ≤ 10 ^ Text.maxNumeralLength := by
    have hpow : 10 ^ 20 ≤ 10 ^ Text.maxNumeralLength := Nat.pow_le_pow_right (by decide) (by decide)
    exact le_trans (by decide) hpow
  cases v with
  | null | decimal | brokenText | list | table => cases h
  | int m =>
    obtain rfl := Checked.ok.inj h
    exact hint m rfl
  | bool b =>
    obtain rfl := Checked.ok.inj h
    refine lt_of_lt_of_le ?_ hword
    cases b <;> decide
  | text s =>
    unfold int at h
    dsimp only at h
    split at h
    · rename_i m hread
      obtain rfl := Checked.ok.inj h
      exact Text.readInt_lt hread
    all_goals cases h
  | float x =>
    unfold int at h
    dsimp only at h
    split at h
    · cases h
    · split at h
      · split at h
        · rename_i hfits
          obtain rfl := Checked.ok.inj h
          unfold isDoubleWord at hfits
          exact (of_decide_eq_true hfits).trans_le hword
        · cases h
      · cases h

namespace NotificationItem

/-- The reported amount of an item is checked apart from its other fields. -/
theorem reported_of_ofBag {bag : Bag} {item : Option ReportedAmount × NotificationItem}
    (h : ofBag bag = .ok item) :
    optional bag "amount" "amount" (Checked.object ReportedAmount.ofBag) = .ok item.1 := by
  unfold ofBag at h
  -- the fields around the amount only fill in what stands beside it
  obtain ⟨_, _, hdate, -, rfl⟩ := Checked.seq_eq_ok_iff.1 h
  obtain ⟨_, _, hamount, -, rfl⟩ := Checked.seq_eq_ok_iff.1 hdate
  obtain ⟨_, reported, hmethod, hreported, rfl⟩ := Checked.seq_eq_ok_iff.1 hamount
  obtain ⟨_, _, hreason, -, rfl⟩ := Checked.seq_eq_ok_iff.1 hmethod
  obtain ⟨_, _, haccount, -, rfl⟩ := Checked.seq_eq_ok_iff.1 hreason
  obtain ⟨_, _, hmerchant, -, rfl⟩ := Checked.seq_eq_ok_iff.1 haccount
  obtain ⟨_, _, horiginal, -, rfl⟩ := Checked.seq_eq_ok_iff.1 hmerchant
  obtain ⟨_, _, hpsp, -, rfl⟩ := Checked.seq_eq_ok_iff.1 horiginal
  obtain ⟨_, _, hsuccess, -, rfl⟩ := Checked.seq_eq_ok_iff.1 hpsp
  obtain ⟨_, _, hcode, -, rfl⟩ := Checked.seq_eq_ok_iff.1 hsuccess
  obtain ⟨_, -, rfl⟩ := Checked.fmap_eq_ok_iff.1 hcode
  exact hreported

/-- What a reported amount was read from is held by the item. -/
theorem exists_of_reported {bag : Bag} {r : ReportedAmount}
    (h : optional bag "amount" "amount" (Checked.object ReportedAmount.ofBag) = .ok (some r)) :
    ∃ amount v, bag.get? "amount" = some (.table amount) ∧ Bag.get? amount "value" = some v ∧
      Checked.int v = .ok r.units := by
  unfold optional field at h
  cases hamount : bag.get? "amount" with
  | none =>
    rw [hamount] at h
    cases h
  | some v =>
    rw [hamount] at h
    have hv := Checked.under_eq_ok_iff.1 h
    cases v with
    | table amount =>
      obtain ⟨_, hr, hsome⟩ := Checked.map_eq_ok_iff.1 hv
      obtain rfl := Option.some.inj hsome
      obtain ⟨_, _, hfirst, -, rfl⟩ := Checked.seq_eq_ok_iff.1 hr
      obtain ⟨units, hunits, rfl⟩ := Checked.fmap_eq_ok_iff.1 hfirst
      obtain ⟨v, hv, hint⟩ := Checked.required_eq_ok_iff.1 hunits
      exact ⟨amount, v, rfl, hv, hint⟩
    | null | bool | int | float | decimal | text | brokenText | list => cases hv

/-- An item whose value holds no whole number beyond the bound can be priced. -/
theorem exists_priced {v : Value} {item : Option ReportedAmount × NotificationItem}
    (h : ofWrapper v = .ok item)
    (hbound : ∀ n : Int, Holds v (.int n) → n.natAbs < 10 ^ Text.maxNumeralLength) :
    ∃ priced, NotificationItem.priced item.1 item.2 = .ok priced := by
  obtain ⟨reported, blank⟩ := item
  cases reported with
  | none => exact ⟨blank, rfl⟩
  | some r =>
    cases v with
    | table wrapper =>
      obtain ⟨inner, hinner, hitem⟩ := Checked.required_eq_ok_iff.1 h
      cases inner with
      | table bag =>
        obtain ⟨amount, v, hamount, hvalue, hint⟩ := exists_of_reported (reported_of_ofBag hitem)
        have hunits : r.units.natAbs < 10 ^ Text.maxNumeralLength := by
          refine Checked.int_lt hint fun m hm => hbound m ?_
          subst hm
          exact .entry (Bag.mem_of_get? hinner) (.entry (Bag.mem_of_get? hamount)
            (.entry (Bag.mem_of_get? hvalue) (.self _)))
        obtain ⟨d, hd⟩ := MinorUnit.exists_toAmount hunits (Text.toUpper r.currency)
        simp only [priced, hd]
        exact ⟨_, rfl⟩
      | null | bool | int | float | decimal | text | brokenText | list => cases hitem
    | null | bool | int | float | decimal | text | brokenText | list => cases h

end NotificationItem

end CardPayments
