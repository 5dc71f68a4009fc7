import CardPayments.Proofs.Merge
import CardPayments.Proofs.Replay

/-!
# Records that can be read

Telling what a record says can only fail in two places: the status among its properties may be no
name of one, and so may the technical failure that is looked up when there is no business result. A
record in whose properties both are names stays readable, whatever readable properties are laid over
it.
-/

namespace CardPayments

/-- Whether what is kept of a value can be read as a status; without a value nothing is read. -/
def Value.NamesStatus (v : Value) : Prop :=
  ∀ s ∈ v.storable.toText?, (PaymentStatus.ofText s).isOk = true

/-- Whether what is kept of a value can be read as a technical failure; what does not count as
present is not read. -/
def Value.NamesFailure (v : Value) : Prop :=
  v.storable.isTruthy = true → (CallErrorStatus.ofName? v.storable.toText).isSome = true

instance : DecidablePred Value.NamesStatus := fun v =>
  inferInstanceAs (Decidable (∀ s ∈ v.storable.toText?, (PaymentStatus.ofText s).isOk = true))

instance : DecidablePred Value.NamesFailure := fun _ => inferInstanceAs (Decidable (_ → _))

/-- What the store has rewritten can be read as before. -/
theorem Value.NamesStatus.storable {v : Value} (h : v.NamesStatus) : v.storable.NamesStatus := by
  unfold NamesStatus
  rw [storable_storable]
  exact h

theorem Value.NamesFailure.storable {v : Value} (h : v.NamesFailure) :
    v.storable.NamesFailure := by
  unfold NamesFailure
  rw [storable_storable]
  exact h

namespace Bag

/-- Whether all values under a name satisfy the predicate. -/
def Every (bag : Bag) (key : String) (P : Value → Prop) : Prop :=
  ∀ entry ∈ bag, entry.1 = key → P entry.2

instance (bag : Bag) (key : String) (P : Value → Prop) [DecidablePred P] :
    Decidable (bag.Every key P) :=
  inferInstanceAs (Decidable (∀ entry ∈ bag, entry.1 = key → P entry.2))

section Every

variable {key : String} {P : Value → Prop}

theorem Every.get? {bag : Bag} (h : bag.Every key P) {value : Value}
    (hvalue : bag.get? key = some value) : P value := by
  induction bag with
  | nil => cases hvalue
  | cons entry bag ih =>
    rw [get?_cons] at hvalue
    by_cases hkey : key = entry.1
    · rw [if_pos hkey] at hvalue
      rw [← Option.some.inj hvalue]
      exact h entry List.mem_cons_self hkey.symm
    · rw [if_neg hkey] at hvalue
      exact ih (fun e he => h e (List.mem_cons_of_mem _ he)) hvalue

theorem Every.storable (hP : ∀ v, P v → P v.storable) {bag : Bag} (h : bag.Every key P) :
    bag.storable.Every key P := by
  intro entry hentry hkey
  rw [storable_eq_map] at hentry
  obtain ⟨old, hold, rfl⟩ := List.mem_map.1 hentry
  exact hP old.2 (h old hold hkey)

/-- Of a bag under another one only the names count that the upper one does not have. -/
theorem Every.onto {upper lower : Bag} (h : upper.Every key P)
    (h' : upper.has key = false → lower.Every key P) : (upper.onto lower).Every key P := by
  intro entry hentry hkey
  obtain hupper | ⟨hlower, hother⟩ := mem_onto hentry
  · rw [hkey] at hupper
    exact Every.get? (fun e he => h e (List.mem_reverse.1 he)) hupper
  · rw [hkey] at hother
    exact h' (Bool.eq_false_iff.2 fun hhas => hother (has_iff.1 hhas)) entry hlower hkey

theorem Every.put {bag : Bag} {value : Value} (h : P value) : (bag.put key value).Every key P := by
  intro entry hentry hkey
  obtain rfl | ⟨-, hne⟩ := mem_put hentry
  · exact h
  · exact absurd hkey hne

theorem Every.put_of_ne {bag : Bag} (h : bag.Every key P) {name : String} (hne : key ≠ name)
    (value : Value) : (bag.put name value).Every key P := by
  intro entry hentry hkey
  obtain rfl | ⟨hold, -⟩ := mem_put hentry
  · exact absurd hkey.symm hne
  · exact h entry hold hkey

theorem Every.putNew_of_ne {bag : Bag} (h : bag.Every key P) {name : String} (hne : key ≠ name)
    (value : Value) : (bag.putNew name value).Every key P := by
  unfold putNew
  split
  · exact h
  · exact h.put_of_ne hne value

end Every

/-- Whether the status among the properties is the name of one, if it is there. -/
def NamesStatus (bag : Bag) : Prop := bag.Every Property.hostedPageStatus Value.NamesStatus

/-- Whether the technical failure among the properties is the name of one, if it is there. -/
def NamesFailure (bag : Bag) : Prop := bag.Every Property.callErrorStatus Value.NamesFailure

end Bag

instance : DecidablePred Bag.NamesStatus := fun bag =>
  inferInstanceAs (Decidable (bag.Every Property.hostedPageStatus Value.NamesStatus))

instance : DecidablePred Bag.NamesFailure := fun bag =>
  inferInstanceAs (Decidable (bag.Every Property.callErrorStatus Value.NamesFailure))

/-- Whether properties do no harm in whatever row they are kept. -/
structure Bag.Readable (bag : Bag) : Prop where
  /-- The status among them is the name of one. -/
  status : bag.NamesStatus
  /-- So is the technical failure. -/
  failure : bag.NamesFailure

instance : DecidablePred Bag.Readable := fun bag =>
  decidable_of_iff (bag.NamesStatus ∧ bag.NamesFailure)
    ⟨fun h => ⟨h.1, h.2⟩, fun h => ⟨h.status, h.failure⟩⟩

/-- Whether properties hold no name that stands for nothing: neither for a status nor for a
technical failure. -/
structure Bag.TellsStatus (bag : Bag) : Prop where
  /-- The status is the name of one, if it is there. -/
  status : ∀ s ∈ bag.text? Property.hostedPageStatus, (PaymentStatus.ofText s).isOk = true
  /-- The technical failure is the name of one, if it counts as present. -/
  failure : (PaymentStatus.recordedCallError bag).isOk = true

/-- A record has a status where it has a business result, or a technical failure that can be
read. -/
theorem PaymentStatus.exists_ofRecorded {result : Option String} {data : Bag}
    (failure : result.getD "" = "" → (recordedCallError data).isOk = true) :
    ∃ status, ofRecorded result data = .ok status := by
  by_cases hresult : result.getD "" = ""
  · obtain ⟨e, he⟩ := Outcome.exists_of_isOk (failure hresult)
    cases result with
    | none =>
      simp only [ofRecorded, he]
      exact ⟨_, rfl⟩
    | some code =>
      have hcode : code = "" := hresult
      simp only [ofRecorded, if_pos hcode, he]
      exact ⟨_, rfl⟩
  · cases result with
    | none => exact absurd rfl hresult
    | some code =>
      have hcode : code ≠ "" := hresult
      simp only [ofRecorded, if_neg hcode]
      exact ⟨_, rfl⟩

namespace TransactionInfo

/-- A record is told if its status can be read, and if its technical failure can be where there is
no business result. -/
theorem exists_ofRecord_of_names {record : ResponseRecord}
    (status : ∀ s ∈ record.additionalData.text? Property.hostedPageStatus,
      (PaymentStatus.ofText s).isOk = true)
    (failure : record.pspResult.getD "" = "" →
      (PaymentStatus.recordedCallError record.additionalData).isOk = true) :
    ∃ info, ofRecord record = .ok info := by
  obtain ⟨told, htold⟩ : ∃ told, statusOr record.additionalData
      (PaymentStatus.ofRecorded record.pspResult record.additionalData) = .ok told := by
    unfold statusOr
    cases htext : record.additionalData.text? Property.hostedPageStatus with
    | none => exact PaymentStatus.exists_ofRecorded failure
    | some s => exact Outcome.exists_of_isOk (status s htext)
  unfold ofRecord
  rw [htold]
  exact ⟨_, rfl⟩

/-- Where the properties hold no such name, the record is told. -/
theorem exists_ofRecord {record : ResponseRecord} (h : record.additionalData.TellsStatus) :
    ∃ info, ofRecord record = .ok info :=
  exists_ofRecord_of_names h.status fun _ => h.failure

end TransactionInfo

/-- Whether a row can be read, now and after whatever readable properties are laid over it. -/
structure Row.Readable (row : Row) : Prop where
  /-- The properties are as the store keeps them. -/
  kept : row.record.additionalData.storable = row.record.additionalData
  /-- The status among them is the name of one. -/
  status : row.record.additionalData.NamesStatus
  /-- So is the technical failure, if there is no business result. -/
  failure : row.record.pspResult.getD "" = "" → row.record.additionalData.NamesFailure

namespace Row.Readable

/-- The row of a record can be read if the properties of the record can. -/
theorem of_kept (id : Nat) {record : ResponseRecord} (status : record.additionalData.NamesStatus)
    (failure : record.pspResult.getD "" = "" → record.additionalData.NamesFailure) :
    Readable ⟨id, record.kept⟩ :=
  ⟨Bag.storable_storable _, status.storable fun _ hv => hv.storable,
    fun hresult => (failure hresult).storable fun _ hv => hv.storable⟩

/-- A row stays readable when readable properties are laid over its own. -/
theorem merge {row : Row} (h : row.Readable) {properties : Bag} (hp : properties.Readable) :
    (row.merge properties).Readable := by
  by_cases hcovers : row.record.additionalData.covers properties.storable = true
  · have hdata := additionalData_merge_of_covers hcovers
    constructor
    · rw [hdata, h.kept]
    · rw [hdata]
      exact h.status
    · intro hresult
      rw [hdata]
      exact h.failure hresult
  · have hdata := additionalData_merge_of_not_covers hcovers
    rw [← Bag.storable_onto] at hdata
    constructor
    · rw [hdata, Bag.storable_storable]
    · rw [hdata]
      exact (hp.status.onto fun _ => h.status).storable fun _ hv => hv.storable
    · intro hresult
      rw [hdata]
      exact (hp.failure.onto fun _ => h.failure hresult).storable fun _ hv => hv.storable

/-- What is found in a readable row is as the store keeps it. -/
theorem storable_of_get? {row : Row} (h : row.Readable) {key : String} {value : Value}
    (hvalue : row.record.additionalData.get? key = some value) : value.storable = value := by
  have hstorable := Bag.get?_storable row.record.additionalData key
  rw [h.kept, hvalue, Option.map_some] at hstorable
  exact (Option.some.inj hstorable).symm

/-- The technical failure of a readable row can be read. -/
theorem isOk_recordedCallError {row : Row} (h : row.Readable)
    (hresult : row.record.pspResult.getD "" = "") :
    (PaymentStatus.recordedCallError row.record.additionalData).isOk = true := by
  unfold PaymentStatus.recordedCallError
  cases hvalue : row.record.additionalData.get? Property.callErrorStatus with
  | none => rfl
  | some value =>
    have hnames := (h.failure hresult).get? hvalue
    unfold Value.NamesFailure at hnames
    rw [h.storable_of_get? hvalue] at hnames
    dsimp only
    by_cases htruthy : value.isTruthy = true
    · obtain ⟨failure, hfailure⟩ := Option.isSome_iff_exists.1 (hnames htruthy)
      rw [if_pos htruthy, hfailure]
      rfl
    · rw [if_neg htruthy]
      rfl

/-- A readable row tells what it says. -/
theorem exists_ofRecord {row : Row} (h : row.Readable) :
    ∃ info, TransactionInfo.ofRecord row.record = .ok info := by
  apply TransactionInfo.exists_ofRecord_of_names
  · intro s hs
    obtain ⟨value, hvalue, htext⟩ := Option.bind_eq_some_iff.1 hs
    have hnames := h.status.get? hvalue
    unfold Value.NamesStatus at hnames
    rw [h.storable_of_get? hvalue] at hnames
    exact hnames s htext
  · exact h.isOk_recordedCallError

end Row.Readable

/-! ## Answers -/

/-- Whether the technical failure among the properties of a response is the name of one, where the
outcome is sought among them. -/
def GatewayResponse.NamesFailure : GatewayResponse → Prop
  | .modification r => r.result = none → r.additionalData.NamesFailure
  | .notification properties =>
    (properties.text? Property.pspResult).getD "" = "" → properties.NamesFailure
  | .purchase _ | .unrecognised _ => True

instance : DecidablePred GatewayResponse.NamesFailure
  | .modification _ | .notification _ => inferInstanceAs (Decidable (_ → _))
  | .purchase _ | .unrecognised _ => isTrue trivial

/-- Whether a response leaves a readable record: it has one outcome, and what is read of its
properties are names. -/
structure GatewayResponse.Readable (response : GatewayResponse) : Prop where
  /-- There is one outcome. -/
  settled : response.IsSettled
  /-- The status is the name of one. -/
  status : (TransactionInfo.statusProperties response).NamesStatus
  /-- So is the technical failure, where the outcome depends on it. -/
  failure : response.NamesFailure

instance : DecidablePred GatewayResponse.Readable := fun response =>
  decidable_of_iff (response.IsSettled ∧
      (TransactionInfo.statusProperties response).NamesStatus ∧ response.NamesFailure)
    ⟨fun h => ⟨h.1, h.2.1, h.2.2⟩, fun h => ⟨h.settled, h.status, h.failure⟩⟩

/-- The name of a status is one. -/
theorem Value.namesStatus_name (status : PaymentStatus) : NamesStatus (.text status.name) := by
  intro s hs
  simp only [storable] at hs
  obtain rfl := Option.some.inj hs
  cases status <;> rfl

/-- The name of a technical failure is one. -/
theorem Value.namesFailure_name (failure : CallErrorStatus) :
    NamesFailure (.text failure.name) := by
  intro _
  simp only [storable, toText, CallErrorStatus.ofName?_name, Option.isSome_some]

/-- Without a text there is no business result. -/
theorem PspResult.eq_none_of_code {result : Option PspResult}
    (h : (result.map PspResult.code).getD "" = "") : result = none := by
  cases result with
  | none => rfl
  | some result => exact absurd h result.code_ne_empty

/-- The properties of a purchase with a technical failure tell it. -/
theorem ResponseRecord.purchaseData_of_failure {r : PurchaseResult} {failure : CallErrorStatus}
    (h : r.callErrorStatus = some failure) :
    purchaseData r = (TransactionInfo.statusProperties (.purchase r)).put Property.callErrorStatus
      (.text failure.name) := by
  unfold purchaseData
  rw [h]
  rfl

theorem ResponseRecord.purchaseData_of_result {r : PurchaseResult} (h : r.callErrorStatus = none) :
    purchaseData r = TransactionInfo.statusProperties (.purchase r) := by
  unfold purchaseData
  rw [h]
  rfl

/-- The properties of a readable response are readable as its record has them. -/
theorem GatewayResponse.Readable.fill {response : GatewayResponse} (h : response.Readable)
    {record filled : ResponseRecord} (hfill : record.fill response = .ok filled) :
    filled.additionalData.NamesStatus ∧
      (filled.pspResult.getD "" = "" → filled.additionalData.NamesFailure) := by
  obtain ⟨settled, status, failure⟩ := h
  cases response with
  | unrecognised kind => exact settled.elim
  | notification properties =>
    obtain rfl := Except.ok.inj hfill
    exact ⟨status, failure⟩
  | modification r =>
    obtain rfl := Except.ok.inj hfill
    exact ⟨status, fun hresult => failure (PspResult.eq_none_of_code hresult)⟩
  | purchase r =>
    obtain rfl := Except.ok.inj hfill
    have hone : r.result.isSome ≠ r.callErrorStatus.isSome := settled
    dsimp only
    cases hfailure : r.callErrorStatus with
    | none =>
      rw [ResponseRecord.purchaseData_of_result hfailure]
      refine ⟨status, fun hresult => ?_⟩
      rw [PspResult.eq_none_of_code hresult, hfailure] at hone
      exact absurd rfl hone
    | some failure =>
      rw [ResponseRecord.purchaseData_of_failure hfailure]
      constructor
      · exact status.put_of_ne (by decide) _
      · intro _
        exact Bag.Every.put (Value.namesFailure_name failure)

/-- The row of a readable response is readable. -/
theorem Row.Readable.of_ofResponse (id : Nat) {a : Attempt} {response : GatewayResponse}
    {now : Moment} {record : ResponseRecord}
    (made : ResponseRecord.ofResponse a response now = .ok record) (h : response.Readable) :
    Row.Readable ⟨id, record.kept⟩ := by
  obtain ⟨filled, _, hfill, rfl⟩ := ResponseRecord.fill_of_ofResponse made
  obtain ⟨status, failure⟩ := h.fill hfill
  exact .of_kept id status failure

end CardPayments
