import CardPayments.Notification.Item
import CardPayments.Proofs.Affirmed
import CardPayments.Proofs.Checked
import CardPayments.Proofs.Json.Spelling
import CardPayments.Proofs.MinorUnit

/-!
# Reports

A report is told as a table under the gateway's names, with its fields in any order; what it lacks
is left out or null. The table passes the check of an item and has what the report has, and the item
can be priced: it has the fields of the report, and exactly the amount of its minor units.
-/

namespace CardPayments

open Json Json.Document

/-- What is reported of one event. -/
structure Report where
  /-- What happened. -/
  eventCode : String
  /-- Whether it succeeded. -/
  success : Bool
  /-- The gateway reference. -/
  pspReference : Option String := none
  /-- The gateway reference of the payment that was modified. -/
  originalReference : Option String := none
  /-- The key by which the merchant knows the payment. -/
  merchantReference : Option String := none
  /-- The merchant account. -/
  merchantAccount : Option String := none
  /-- Why it failed. -/
  reason : Option String := none
  /-- The payment method. -/
  paymentMethod : Option String := none
  /-- The amount. -/
  amount : Option ReportedAmount := none
  /-- When it happened. -/
  eventDate : Option String := none
  /-- Everything else, as texts under names. -/
  additionalData : List (String × String) := []
  /-- The minor units fit the precision. -/
  units_lt : ∀ reported ∈ amount, |reported.units| < 10 ^ 28
  /-- Every name is there once. -/
  distinct : (additionalData.map Prod.fst).Nodup

namespace Report

/-! ## Telling a report -/

/-- The names under which a report is told. -/
def names : List String :=
  ["eventCode", "success", "pspReference", "originalReference", "merchantReference",
    "merchantAccountCode", "reason", "paymentMethod", "amount", "eventDate", "additionalData"]

/-- What is found where something is told that may be missing. -/
inductive Tells {α : Type} (tell : α → Value → Prop) : Option α → Option Value → Prop where
  /-- It is told. -/
  | told {a : α} {v : Value} (h : tell a v) : Tells tell (some a) (some v)
  /-- It is missing and left out. -/
  | leftOut : Tells tell none none
  /-- It is missing and told as null. -/
  | null : Tells tell none (some .null)

/-- A text is told as it is. -/
def TellsText (s : String) (v : Value) : Prop := v = .text s

/-- Success is told as a truth value, or as a word in any case. -/
inductive TellsSuccess (b : Bool) : Value → Prop where
  /-- A truth value. -/
  | bool : TellsSuccess b (.bool b)
  /-- The word for it. -/
  | word {s : String} (h : s.toList.map Char.toLower = (truthWord b).toList) :
    TellsSuccess b (.text s)

/-- An amount is told as a table of its minor units and its currency, in either order. -/
inductive TellsAmount (reported : ReportedAmount) : Value → Prop where
  /-- The minor units first. -/
  | unitsFirst : TellsAmount reported
    (.table [("value", .int reported.units), ("currency", .text reported.currency)])
  /-- The currency first. -/
  | currencyFirst : TellsAmount reported
    (.table [("currency", .text reported.currency), ("value", .int reported.units)])

/-- Everything else, as a table of texts. -/
def data (r : Report) : Bag := r.additionalData.map fun entry => (entry.1, .text entry.2)

/-- A table is told as it is; an empty one may be missing. -/
inductive TellsData : Bag → Option Value → Prop where
  /-- It is told. -/
  | told (bag : Bag) : TellsData bag (some (.table bag))
  /-- It is empty and missing. -/
  | missing {found : Option Value} (h : Tells (fun bag v => v = .table bag) none found) :
    TellsData [] found

/-- A table that tells a report. -/
structure IsItem (r : Report) (bag : Bag) : Prop where
  /-- Every name is there once. -/
  distinct : bag.Distinct
  /-- No other names are there. -/
  names : ∀ name ∈ bag.map Prod.fst, name ∈ Report.names
  /-- What happened. -/
  eventCode : bag.get? "eventCode" = some (.text r.eventCode)
  /-- Whether it succeeded. -/
  success : ∃ v, bag.get? "success" = some v ∧ TellsSuccess r.success v
  /-- The gateway reference. -/
  pspReference : Tells TellsText r.pspReference (bag.get? "pspReference")
  /-- The gateway reference of the payment that was modified. -/
  originalReference : Tells TellsText r.originalReference (bag.get? "originalReference")
  /-- The key by which the merchant knows the payment. -/
  merchantReference : Tells TellsText r.merchantReference (bag.get? "merchantReference")
  /-- The merchant account. -/
  merchantAccount : Tells TellsText r.merchantAccount (bag.get? "merchantAccountCode")
  /-- Why it failed. -/
  reason : Tells TellsText r.reason (bag.get? "reason")
  /-- The payment method. -/
  paymentMethod : Tells TellsText r.paymentMethod (bag.get? "paymentMethod")
  /-- The amount. -/
  amount : Tells TellsAmount r.amount (bag.get? "amount")
  /-- When it happened. -/
  eventDate : Tells TellsText r.eventDate (bag.get? "eventDate")
  /-- Everything else. -/
  additionalData : TellsData r.data (bag.get? "additionalData")

/-- A table in its wrapper. -/
def IsWrapped (r : Report) (v : Value) : Prop :=
  ∃ bag, v = .table [("NotificationRequestItem", .table bag)] ∧ r.IsItem bag

/-! ## Reading a report -/

/-- The item of a report, apart from its amount. -/
def unpriced (r : Report) : NotificationItem where
  eventCode := r.eventCode
  success := r.success
  pspReference := r.pspReference
  originalReference := r.originalReference
  merchantReference := r.merchantReference
  merchantAccount := r.merchantAccount
  reason := r.reason
  paymentMethod := r.paymentMethod
  eventDate := r.eventDate
  additionalData := r.data

/-- What is told by a value that passes a check passes it, or is missing. -/
theorem withDefault_of_tells {α : Type} {tell : α → Value → Prop} {check : Value → Checked α}
    (hcheck : ∀ a v, tell a v → v ≠ .null ∧ check v = .ok a) (name : String) {told : Option α}
    {found : Option Value} (h : Tells tell told found) :
    Checked.withDefault name none (Checked.nullable check) found = .ok told := by
  cases h with
  | @told a v htell =>
    obtain ⟨hnull, hok⟩ := hcheck a v htell
    have hnullable : Checked.nullable check v = Checked.map some (check v) := by
      cases v with
      | null => exact absurd rfl hnull
      | bool | int | float | decimal | text | brokenText | list | table => rfl
    rw [Checked.withDefault, hnullable, hok]
    rfl
  | leftOut => rfl
  | null => rfl

/-- Where a field is not found under its name, nothing is found under its plain name either. -/
theorem field_eq {bag : Bag} {name plain : String}
    (hplain : bag.get? name = none → bag.get? plain = none) :
    NotificationItem.field bag name plain = (name, bag.get? name) := by
  unfold NotificationItem.field
  cases hname : bag.get? name with
  | some v => rfl
  | none => rw [hplain hname]

/-- So a field that may be missing is read as it is told. -/
theorem optional_of_tells {α : Type} {tell : α → Value → Prop} {check : Value → Checked α}
    (hcheck : ∀ a v, tell a v → v ≠ .null ∧ check v = .ok a) {told : Option α} {bag : Bag}
    {name plain : String} (h : Tells tell told (bag.get? name))
    (hplain : bag.get? name = none → bag.get? plain = none) :
    NotificationItem.optional bag name plain check = .ok told := by
  unfold NotificationItem.optional
  rw [field_eq hplain]
  exact withDefault_of_tells hcheck name h

/-- A text passes its check. -/
theorem text_of_tellsText (s : String) (v : Value) (h : TellsText s v) :
    v ≠ .null ∧ Checked.text v = .ok s := by
  obtain rfl := h
  exact ⟨by simp, rfl⟩

/-- An amount passes its check. -/
theorem amount_of_tellsAmount (reported : ReportedAmount) (v : Value)
    (h : TellsAmount reported v) :
    v ≠ .null ∧ Checked.object ReportedAmount.ofBag v = .ok reported := by
  cases h <;> exact ⟨by simp, rfl⟩

/-- Success is read as it is told. -/
theorem success_of_tellsSuccess {b : Bool} {v : Value} (h : TellsSuccess b v) :
    NotificationItem.checkSuccess v = .ok b := by
  cases h with
  | bool => rfl
  | @word s h =>
    have hletters : (truthWord b).toList.all fun c => c.toNat < 0x80 && !Text.isBlank c := by
      cases b <;> decide
    have hword : ∀ c ∈ (truthWord b).toList, c.toNat < 0x80 ∧ Text.isBlank c = false := by
      simpa using hletters
    have hyes : (truthWord b == "true") = b := by
      cases b <;> rfl
    rw [NotificationItem.checkSuccess, Value.affirmative_of_word h hword, hyes]

/-- Everything else is read as it is told. -/
theorem data_of_tellsData {data : Bag} (name : String) {found : Option Value}
    (h : TellsData data found) :
    Checked.withDefault name [] NotificationItem.checkData found = .ok data := by
  cases h with
  | told =>
    cases data <;> rfl
  | missing h =>
    cases h <;> rfl

/-! ## The limits of a reader -/

/-- What may be missing is within the limits if what is told is. -/
theorem Tells.fits {α : Type} {tell : α → Value → Prop} {told : Option α} {found : Option Value}
    {depth : Nat} (h : Tells tell told found)
    (htell : ∀ a, told = some a → ∀ v, tell a v → Fits depth v) :
    ∀ v, found = some v → Fits depth v := by
  intro v hv
  cases h with
  | told h =>
    obtain rfl := Option.some.inj hv
    exact htell _ rfl _ h
  | leftOut => cases hv
  | null =>
    obtain rfl := Option.some.inj hv
    cases depth <;> trivial

/-- Minor units that fit the precision are within the limits. -/
theorem fits_of_tellsAmount {reported : ReportedAmount} (h : |reported.units| < 10 ^ 28)
    {v : Value} (htells : TellsAmount reported v) : Fits 1 v := by
  have hunits : reported.units.natAbs < 10 ^ Text.maxNumeralLength := by
    have hshort : reported.units.natAbs < 10 ^ 28 := by
      zify
      exact h
    exact hshort.trans_le (Nat.pow_le_pow_right (by decide) (by decide))
  cases htells with
  | unitsFirst => exact List.forall_mem_cons.2 ⟨hunits, List.forall_mem_singleton.2 trivial⟩
  | currencyFirst => exact List.forall_mem_cons.2 ⟨trivial, List.forall_mem_singleton.2 hunits⟩

/-- A table of texts is within the limits. -/
theorem TellsData.fits {data : Bag} {found : Option Value} (h : TellsData data found)
    (hdata : ∀ entry ∈ data, Fits 0 entry.2) : ∀ v, found = some v → Fits 1 v := by
  intro v hv
  cases h with
  | told =>
    obtain rfl := Option.some.inj hv
    exact hdata
  | missing h => exact h.fits (fun _ hnone => nomatch hnone) v hv

namespace IsItem

variable {r : Report} {bag : Bag}

/-- Nothing is found under other names. -/
theorem get?_eq_none (h : r.IsItem bag) {name : String} (hname : name ∉ Report.names) :
    bag.get? name = none :=
  Bag.get?_eq_none fun hmem => hname (h.names name hmem)

/-- A table that tells a report passes the check, and has what the report has. -/
theorem ofBag_eq (h : r.IsItem bag) : NotificationItem.ofBag bag = .ok (r.amount, r.unpriced) := by
  have hfield : ∀ {name plain : String}, plain ∉ Report.names →
      NotificationItem.field bag name plain = (name, bag.get? name) :=
    fun hother => field_eq fun _ => h.get?_eq_none hother
  have htext : ∀ {told : Option String} {name plain : String}, plain ∉ Report.names →
      Tells TellsText told (bag.get? name) →
      NotificationItem.optional bag name plain Checked.text = .ok told :=
    fun hother htells => optional_of_tells text_of_tellsText htells fun _ => h.get?_eq_none hother
  have hcode : Checked.required "eventCode" Checked.text (bag.get? "eventCode") =
      .ok r.eventCode := Checked.required_eq_ok_iff.2 ⟨_, h.eventCode, rfl⟩
  have hsuccess : Checked.required "success" NotificationItem.checkSuccess (bag.get? "success") =
      .ok r.success := by
    obtain ⟨v, hv, htells⟩ := h.success
    exact Checked.required_eq_ok_iff.2 ⟨v, hv, success_of_tellsSuccess htells⟩
  unfold NotificationItem.ofBag
  dsimp only
  rw [hfield (by decide), hcode, hsuccess, htext (by decide) h.pspReference,
    htext (by decide) h.originalReference, htext (by decide) h.merchantReference,
    htext (by decide) h.merchantAccount, optional_of_tells text_of_tellsText h.reason id,
    htext (by decide) h.paymentMethod, optional_of_tells amount_of_tellsAmount h.amount id,
    htext (by decide) h.eventDate, hfield (by decide), data_of_tellsData _ h.additionalData]
  rfl

/-- Such a table is within the limits of a reader. -/
theorem fits (h : r.IsItem bag) : Fits 2 (.table bag) := by
  have htext : ∀ {told : Option String} (s : String), told = some s → ∀ v, TellsText s v →
      Fits 1 v := by
    rintro told s - v rfl
    trivial
  have hfound : ∀ name ∈ Report.names, ∀ v, bag.get? name = some v → Fits 1 v := by
    simp only [Report.names, List.forall_mem_cons]
    refine ⟨?_, ?_, h.pspReference.fits htext, h.originalReference.fits htext,
      h.merchantReference.fits htext, h.merchantAccount.fits htext, h.reason.fits htext,
      h.paymentMethod.fits htext, ?_, h.eventDate.fits htext, ?_, List.forall_mem_nil _⟩
    · intro v hv
      obtain rfl := Option.some.inj (h.eventCode.symm.trans hv)
      trivial
    · intro v hv
      obtain ⟨w, hw, htells⟩ := h.success
      obtain rfl := Option.some.inj (hw.symm.trans hv)
      cases htells <;> trivial
    · exact h.amount.fits fun reported hreported _ htells =>
        fits_of_tellsAmount (r.units_lt reported hreported) htells
    · exact h.additionalData.fits (List.forall_mem_map.2 fun _ _ => trivial)
  intro entry hentry
  have hname : entry.1 ∈ Report.names := h.names _ (List.mem_map_of_mem hentry)
  exact hfound _ hname _ (Bag.get?_of_mem h.distinct hentry)

end IsItem

/-! ## What an item has of a report -/

/-- Whether an item is what was reported, with the amount of the minor units. -/
structure Arrives (r : Report) (item : NotificationItem) : Prop where
  /-- All other fields are those of the report. -/
  fields : { item with amount := none, currency := none } = r.unpriced
  /-- The currency is in upper case. -/
  currency : item.currency = r.amount.map fun reported => Text.toUpper reported.currency
  /-- The amount is the minor units in units of the currency. -/
  amount : Option.Rel (fun (reported : ReportedAmount) (amount : Decimal) => amount.isFinite ∧
    amount.value = reported.units / 10 ^ MinorUnit.places reported.currency) r.amount item.amount

/-- The item of a report can be priced, and is what was reported. -/
theorem exists_arrives (r : Report) :
    ∃ item, NotificationItem.priced r.amount r.unpriced = .ok item ∧ r.Arrives item := by
  cases hamount : r.amount with
  | none =>
    refine ⟨r.unpriced, rfl, rfl, ?_, ?_⟩
    · rw [hamount]
      rfl
    · rw [hamount]
      exact .none
  | some reported =>
    have hpriced := MinorUnit.toAmount_short (r.units_lt reported hamount)
      (Text.toUpper reported.currency)
    refine ⟨{ r.unpriced with
        amount := some (.finite (reported.units < 0) reported.units.natAbs
          (-(MinorUnit.places (Text.toUpper reported.currency) : Int)))
        currency := some (Text.toUpper reported.currency) }, ?_, rfl, ?_, ?_⟩
    · rw [NotificationItem.priced, hpriced]
    · rw [hamount]
      rfl
    · rw [hamount]
      refine .some ⟨rfl, ?_⟩
      rw [MinorUnit.value_ofUnits, MinorUnit.places_toUpper]

end Report

end CardPayments
