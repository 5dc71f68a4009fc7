import CardPayments.Notification.Intake
import CardPayments.Proofs.Bag
import CardPayments.Proofs.Record

/-!
# What an item is recorded with

The properties of an item are its own fields over everything else that it brings. So a record tells
which event it was by three of them, unless the gateway reference is brought by the rest alone.
-/

namespace CardPayments.NotificationItem

/-- The names of the fields that an item may lack. -/
def optionalNames : List String :=
  [Property.reason, Property.pspReference, Property.merchantReference, Property.originalReference]

/-- Optional properties go by the names of optional fields. -/
theorem optional_names (item : NotificationItem) {key : String}
    (h : key ∈ item.optionalProperties.map Prod.fst) : key ∈ optionalNames := by
  simp only [optionalProperties, List.mem_map, List.mem_filterMap] at h
  obtain ⟨_, ⟨entry, hentry, hsome⟩, rfl⟩ := h
  obtain ⟨s, _, rfl⟩ := Option.map_eq_some_iff.1 hsome
  exact List.mem_map_of_mem (f := Prod.fst) hentry

/-- What an item always brings goes before everything else. -/
theorem get?_properties_of_fixed (item : NotificationItem) {key : String} {value : Value}
    (hoptional : key ∉ optionalNames)
    (hfixed : Bag.get? item.fixedProperties.reverse key = some value) :
    item.properties.get? key = some value := by
  unfold properties
  rw [Bag.get?_onto_of_not_mem fun h => hoptional (item.optional_names h), Bag.get?_onto, hfixed]
  rfl

theorem get?_fromHostedPage (item : NotificationItem) :
    item.properties.get? Property.fromHostedPage = some (.text "true") :=
  item.get?_properties_of_fixed (by decide) rfl

theorem get?_eventCode (item : NotificationItem) :
    item.properties.get? Property.eventCode = some (.text item.eventCode) :=
  item.get?_properties_of_fixed (by decide) rfl

theorem get?_success (item : NotificationItem) :
    item.properties.get? Property.success = some (.text item.successWord) :=
  item.get?_properties_of_fixed (by decide) rfl

/-- The gateway reference is that of the item, or else what the rest brings under its name. -/
theorem get?_pspReference (item : NotificationItem) :
    item.properties.get? Property.pspReference =
      (item.pspReference.map Value.text).or (item.additionalData.get? Property.pspReference) := by
  have hoptional : Bag.get? item.optionalProperties.reverse Property.pspReference =
      item.pspReference.map Value.text := by
    unfold optionalProperties
    cases item.reason <;> cases item.pspReference <;> cases item.merchantReference <;>
      cases item.originalReference <;> rfl
  have hfixed : Bag.get? item.fixedProperties.reverse Property.pspReference = none := rfl
  unfold properties
  rw [Bag.get?_onto, Bag.get?_onto, hoptional, hfixed, Option.none_or]

/-- Whatever an item brings, its result is its own. -/
theorem text?_pspResult (item : NotificationItem) :
    item.properties.text? Property.pspResult = some item.result.code := by
  have hresult : item.properties.get? Property.pspResult = some (.text item.result.code) :=
    item.get?_properties_of_fixed (by decide) rfl
  simp [Bag.text?, hresult, Value.toText?, Value.isNull, Value.toText]

/-- So is its gateway reference, if it has one. -/
theorem text?_pspReference_of_some {item : NotificationItem} {reference : String}
    (h : item.pspReference = some reference) :
    item.properties.text? Property.pspReference = some reference := by
  have hreference : item.properties.get? Property.pspReference = some (.text reference) := by
    rw [get?_pspReference, h, Option.map_some, Option.some_or]
  simp [Bag.text?, hreference, Value.toText?, Value.isNull, Value.toText]

/-- The status that the record of an item tells is that of the item. -/
theorem exists_ofRecord_of_made {item : NotificationItem} {a : Attempt}
    (hproperties : a.properties = item.properties) {now : Moment} {record : ResponseRecord}
    (made : ResponseRecord.ofResponse a (.notification a.properties) now = .ok record) :
    ∃ info, TransactionInfo.ofRecord record.kept = .ok info ∧ info.status = item.status := by
  obtain ⟨filled, _, hfill, rfl⟩ := ResponseRecord.fill_of_ofResponse made
  obtain rfl := Except.ok.inj hfill
  have hstatus : item.properties.get? Property.hostedPageStatus =
      some (.text item.status.name) := item.get?_properties_of_fixed (by decide) rfl
  have htext : Bag.text? item.properties.storable Property.hostedPageStatus =
      some item.status.name := by
    simp [Bag.text?, Bag.get?_storable, hstatus, Value.storable, Value.toText?, Value.isNull,
      Value.toText]
  have hname : PaymentStatus.ofText item.status.name = .ok item.status := by
    cases item.status <;> rfl
  simp only [TransactionInfo.ofRecord, TransactionInfo.statusOr, ResponseRecord.kept, hproperties,
    htext, hname]
  exact ⟨_, rfl, rfl⟩

/-- Whatever an item brings, it is recorded as coming from the hosted page. -/
theorem affirms_properties (item : NotificationItem) :
    item.properties.affirms Property.fromHostedPage = true := by
  simp only [Bag.affirms, Bag.text?, item.get?_fromHostedPage]
  rfl

/-- Whether the gateway reference of an item can be read from its record: what an item without one
brings beside its fields does not stand in for it. -/
def IsLegible (item : NotificationItem) : Prop :=
  item.pspReference = none →
    (item.additionalData.get? Property.pspReference).getD .null = .null

instance : DecidablePred IsLegible := fun _ => inferInstanceAs (Decidable (_ → _))

/-- The gateway reference of a legible item is recorded as it is, or recorded to be none. -/
theorem get?_pspReference_cases {item : NotificationItem} (h : item.IsLegible) :
    item.properties.get? Property.pspReference = item.pspReference.map Value.text ∨
      item.pspReference = none ∧ item.properties.get? Property.pspReference = some .null := by
  rw [get?_pspReference]
  cases hreference : item.pspReference with
  | some reference => exact Or.inl rfl
  | none =>
    have hnull := h hreference
    cases hdata : item.additionalData.get? Property.pspReference with
    | none => exact Or.inl rfl
    | some value =>
      rw [hdata, Option.getD_some] at hnull
      exact Or.inr ⟨rfl, congrArg some hnull⟩

theorem text?_pspReference {item : NotificationItem} (h : item.IsLegible) :
    item.properties.text? Property.pspReference = item.pspReference := by
  unfold Bag.text?
  rcases get?_pspReference_cases h with hget | ⟨hnone, hget⟩
  · rw [hget]
    cases item.pspReference <;> rfl
  · rw [hget, hnone]
    rfl

/-- The event that an item tells of. -/
def event (item : NotificationItem) : String × Bool × Option String :=
  (item.eventCode, item.success, item.pspReference)

/-- Items of one event are recorded by the same records. -/
theorem isRecordedBy_congr {i j : NotificationItem} (h : i.event = j.event)
    (record : ResponseRecord) : i.isRecordedBy record = j.isRecordedBy record := by
  obtain ⟨hcode, hrest⟩ := Prod.mk.inj h
  obtain ⟨hsuccess, hreference⟩ := Prod.mk.inj hrest
  simp only [isRecordedBy, successWord, hcode, hsuccess, hreference]

/-- The record of an item bears its gateway reference and tells of it, also as the store keeps
it. -/
theorem isRecordedBy_kept {item : NotificationItem} (legible : item.IsLegible) {a : Attempt}
    (hproperties : a.properties = item.properties) {now : Moment} {record : ResponseRecord}
    (made : ResponseRecord.ofResponse a (.notification a.properties) now = .ok record) :
    record.pspReference = item.pspReference ∧ item.isRecordedBy record.kept = true := by
  obtain ⟨filled, _, hfill, rfl⟩ := ResponseRecord.fill_of_ofResponse made
  obtain rfl := Except.ok.inj hfill
  rw [hproperties]
  refine ⟨text?_pspReference legible, ?_⟩
  have hkept : ∀ key, Bag.get? (Bag.storable item.properties) key =
      (item.properties.get? key).map Value.storable := Bag.get?_storable _
  have hreference : ((item.properties.get? Property.pspReference).map Value.storable).getD .null =
      (item.pspReference.map Value.text).getD .null := by
    rcases get?_pspReference_cases legible with hget | ⟨hnone, hget⟩
    · rw [hget]
      cases item.pspReference <;> rfl
    · rw [hget, hnone]
      rfl
  simp only [isRecordedBy, ResponseRecord.kept, hkept, hreference, get?_eventCode, get?_success]
  simp [Value.storable, Value.isText]

/-- An authorization reserves an amount, whatever it is matched to. -/
theorem isAuthorization_authorizationKind (found : NotificationMatch) :
    (authorizationKind found).isAuthorization = true := by
  cases found with
  | response record =>
    unfold authorizationKind
    dsimp only
    split
    · assumption
    · rfl
  | request accountId paymentId transactionId request =>
    unfold authorizationKind
    dsimp only
    split <;> rfl

/-- An item that is matched to the record of its own event is of the same type. -/
theorem kindFor_of_event {i j : NotificationItem} (hcode : i.eventCode = j.eventCode)
    {kind : TransactionType} {found : NotificationMatch} {record : ResponseRecord}
    (h : record.kind = j.kindFor kind found) :
    i.kindFor kind (.response record) = record.kind := by
  unfold kindFor at h ⊢
  rw [hcode]
  by_cases hauthorisation : j.eventCode = authorisation
  · rw [if_pos hauthorisation] at h ⊢
    have hreserves := isAuthorization_authorizationKind found
    rw [← h] at hreserves
    exact if_pos hreserves
  · rw [if_neg hauthorisation] at h ⊢
    exact h.symm

end CardPayments.NotificationItem
