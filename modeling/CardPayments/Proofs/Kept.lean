import CardPayments.Info
import CardPayments.Proofs.Bag
import CardPayments.Proofs.Record
import CardPayments.Proofs.Store

/-!
# What is read back

The store rewrites what it keeps: decimals among the properties become texts, at any depth, amounts
come back with other places, and moments lose the offset of their clock, which is universal time
when they are read again. None of this changes what a row tells, as long as the few properties that
are looked at hold no decimals; and no other row gets in the way of finding it.
-/

namespace CardPayments

/-- A moment as a column without offsets keeps it. -/
def Moment.withoutOffset (m : Moment) : Moment := { m with offset := none }

/-- A moment in universal time is read back from what its clock shows. -/
theorem Moment.toUniversal_withoutOffset {m u : Moment} (h : m.toUniversal = some u) :
    u.withoutOffset.toUniversal = some u := by
  cases ho : m.offset with
  | none =>
    simp only [toUniversal, ho] at h
    obtain rfl := Option.some.inj h
    rfl
  | some offset =>
    simp only [toUniversal, ho] at h
    split at h
    · obtain rfl := Option.some.inj h
      rfl
    · cases h

namespace ResponseRecord

/-- The properties at which one looks to tell what a record says. -/
def toldProperties : List String :=
  [Property.hostedPageStatus, Property.callErrorStatus, Property.exceptionMessage,
    Property.exceptionClass]

/-- Whether the store keeps the properties that are told as they are. It does so with texts and with
null, and with whatever else holds no decimal. -/
def IsPlain (record : ResponseRecord) : Prop :=
  ∀ key ∈ toldProperties,
    (record.additionalData.get? key).map Value.storable = record.additionalData.get? key

instance : DecidablePred IsPlain := fun record => inferInstanceAs (Decidable (∀ key ∈
  toldProperties,
    (record.additionalData.get? key).map Value.storable = record.additionalData.get? key))

/-- A record made anew from the columns of its row, of which that of the moment has no offset. -/
def reread (record : ResponseRecord) : ResponseRecord :=
  { record with createdAt := record.createdAt.bind fun m => m.withoutOffset.toUniversal }

/-- The record of a response is made anew as it was. -/
theorem reread_of_ofResponse {a : Attempt} {response : GatewayResponse} {now : Moment}
    {record : ResponseRecord} (h : ofResponse a response now = .ok record) :
    record.kept.reread = record.kept := by
  obtain ⟨universal, hnow, hcreated⟩ := createdAt_of_ofResponse h
  have hread : record.createdAt.bind (fun m => m.withoutOffset.toUniversal) = record.createdAt := by
    rw [hcreated, Option.bind_some, Moment.toUniversal_withoutOffset hnow]
  simp only [reread, kept, hread]

/-- What is told is kept as it is. -/
theorem get?_kept {record : ResponseRecord} (h : record.IsPlain) {key : String}
    (hkey : key ∈ toldProperties) :
    record.kept.additionalData.get? key = record.additionalData.get? key := by
  change Bag.get? record.additionalData.storable key = _
  rw [Bag.get?_storable]
  exact h key hkey

end ResponseRecord

/-- The status of a record depends on two properties alone. -/
theorem PaymentStatus.ofRecorded_congr (result : Option String) {a b : Bag}
    (h : a.get? Property.callErrorStatus = b.get? Property.callErrorStatus) :
    ofRecorded result a = ofRecorded result b := by
  simp only [ofRecorded, recordedCallError, h]

namespace TransactionInfo

/-- A record that is kept tells what it told before, or fails as before; only its amount and its
properties are those that are kept. -/
theorem ofRecord_kept {record : ResponseRecord} (h : record.IsPlain) :
    ofRecord record.kept = (ofRecord record).map fun info =>
      { info with
        amount := record.kept.amount
        properties := record.kept.additionalData } := by
  have htext : ∀ {key}, key ∈ ResponseRecord.toldProperties →
      record.kept.additionalData.text? key = record.additionalData.text? key :=
    fun hkey => Bag.text?_congr (ResponseRecord.get?_kept h hkey)
  have hstatus : statusOr record.kept.additionalData
        (PaymentStatus.ofRecorded record.kept.pspResult record.kept.additionalData) =
      statusOr record.additionalData
        (PaymentStatus.ofRecorded record.pspResult record.additionalData) := by
    have htold : Property.callErrorStatus ∈ ResponseRecord.toldProperties := by decide
    unfold statusOr
    rw [htext (by decide), PaymentStatus.ofRecorded_congr _ (ResponseRecord.get?_kept h htold)]
    rfl
  have hmessage : CardPayments.errorMessage record.kept.refusalReason record.kept.additionalData =
      CardPayments.errorMessage record.refusalReason record.additionalData := by
    unfold CardPayments.errorMessage
    rw [htext (by decide)]
    rfl
  have hcode : ErrorCode.ofOutcome record.kept.resultCode record.kept.additionalData
        record.kept.pspResult =
      ErrorCode.ofOutcome record.resultCode record.additionalData record.pspResult := by
    unfold ErrorCode.ofOutcome ErrorCode.exceptionClass
    rw [htext (by decide)]
    rfl
  unfold ofRecord
  rw [hstatus, hmessage, hcode]
  cases statusOr record.additionalData
    (PaymentStatus.ofRecorded record.pspResult record.additionalData) <;> rfl

end TransactionInfo

namespace Store

/-- Adds one response after another. -/
def addResponses (s : Store) (records : List ResponseRecord) : Store :=
  records.foldl (fun s record => (s.addResponse record).2) s

/-- Each response that is added becomes a row behind the others. -/
theorem rows_addResponses (s : Store) (records : List ResponseRecord) :
    ∃ later, (s.addResponses records).rows = s.rows ++ later ∧
      ∀ row ∈ later, ∃ record ∈ records, row.record = record.kept := by
  induction records generalizing s with
  | nil => exact ⟨[], (List.append_nil _).symm, fun row hrow => absurd hrow List.not_mem_nil⟩
  | cons record records ih =>
    obtain ⟨later, hrows, hlater⟩ := ih (s.addResponse record).2
    refine ⟨(s.addResponse record).1 :: later, ?_, fun row hrow => ?_⟩
    · refine hrows.trans ?_
      rw [addResponse, List.append_assoc]
      rfl
    · rcases List.mem_cons.1 hrow with rfl | hrow
      · exact ⟨record, List.mem_cons_self, rfl⟩
      · obtain ⟨other, hother, heq⟩ := hlater row hrow
        exact ⟨other, List.mem_cons_of_mem _ hother, heq⟩

end Store

namespace TransactionInfo

/-- Whatever else is added to the store, the record of a response is found again among those of its
payment, and as the latest of its transaction and type. Made anew from its columns it tells what it
told before it was kept, or fails as it did; only its amount and its properties are those that are
kept. -/
theorem reread_tells_the_same {a : Attempt} {response : GatewayResponse} {now : Moment}
    {record : ResponseRecord} (made : ResponseRecord.ofResponse a response now = .ok record)
    (plain : record.IsPlain) (s : Store) (further : List ResponseRecord)
    (others : ∀ other ∈ further,
      ¬ (other.transactionId = record.transactionId ∧ other.kind = record.kind)) :
    let row := (s.addResponse record).1
    let t := (s.addResponse record).2.addResponses further
    (∃ later, t.ofPayment record.paymentId = s.ofPayment record.paymentId ++ row :: later) ∧
      t.latestOf? record.transactionId record.kind = some row ∧
      ofRecord row.record.reread = (ofRecord record).map fun info =>
        { info with amount := row.record.amount, properties := row.record.additionalData } := by
  intro row t
  obtain ⟨later, hrows, hlater⟩ := (s.addResponse record).2.rows_addResponses further
  have hsplit : t.rows = s.rows ++ row :: later := by
    refine hrows.trans ?_
    rw [Store.addResponse, List.append_assoc]
    rfl
  refine ⟨⟨later.filter fun r => r.record.paymentId == record.paymentId, ?_⟩, ?_, ?_⟩
  · unfold Store.ofPayment
    rw [hsplit, List.filter_append]
    exact congrArg _ (List.filter_cons_of_pos (beq_self_eq_true _))
  · refine Store.latest?_of_rows hsplit ?_ fun r hr => ?_
    · change (record.transactionId == record.transactionId && record.kind == record.kind) = true
      rw [beq_self_eq_true, beq_self_eq_true]
      rfl
    · obtain ⟨other, hother, hkept⟩ := hlater r hr
      rw [hkept, Bool.and_eq_false_iff, beq_eq_false_iff_ne, beq_eq_false_iff_ne]
      exact not_and_or.1 (others other hother)
  · have hreread : row.record.reread = row.record := ResponseRecord.reread_of_ofResponse made
    rw [hreread]
    exact ofRecord_kept plain

/-- A technical failure is told with its message and its class, although decimals stand around it
and the payment goes on in another transaction. -/
theorem reread_tells_the_same_failure :
    let a : Attempt :=
      ⟨"acc", "pay", "tx", none, .authorize, some (.finite false 1000 (-2)), some "EUR", []⟩
    let response : GatewayResponse := .purchase
      { callErrorStatus := some .unknownFailure
        additionalData :=
          [(Property.exceptionMessage, .text "timed out"), (Property.hostedPageStatus, .null),
            (Property.exceptionClass, .text "net.Timeout"),
            ("amounts", .list [.table [("tax", .decimal (.finite false 4250 (-2)))]])] }
    ∃ record, ResponseRecord.ofResponse a response ⟨63850161600000000, some 7200000000⟩ =
        .ok record ∧ record.IsPlain ∧
      let row := (Store.addResponse {} record).1
      let t :=
        (Store.addResponse {} record).2.addResponses [{ record with transactionId := "next" }]
      row.record.additionalData.get? "amounts" =
          some (.list [.table [("tax", .text "42.50")]]) ∧
        t.latestOf? "tx" .authorize = some row ∧
        ∃ info, ofRecord row.record.reread = .ok info ∧ info.status = .undefined ∧
          info.errorMessage = some "timed out" ∧ info.errorCode = some "net.Timeout" := by
  intro a response
  obtain ⟨record, made, hrecord⟩ : ∃ record, ResponseRecord.ofResponse a response
      ⟨63850161600000000, some 7200000000⟩ = .ok record ∧ record = _ := ⟨_, rfl, rfl⟩
  have plain : record.IsPlain := by
    rw [hrecord]
    decide +kernel
  obtain ⟨-, hlatest, htells⟩ := reread_tells_the_same made plain {}
    [{ record with transactionId := "next" }] (by rw [hrecord]; decide +kernel)
  subst hrecord
  refine ⟨_, made, plain, ?_, hlatest, _, htells.trans rfl, ?_⟩
  · decide +kernel
  · decide +kernel

end TransactionInfo

end CardPayments
