import CardPayments.Info
import CardPayments.Proofs.Bag
import CardPayments.Proofs.Record

/-!
# Fresh answers and their replays

The billing platform is told of a gateway answer twice: once when the answer arrives, and again
whenever the record of it is read. Status, references and instants of the two tellings are the same
for every answer with one outcome. Message and code are the same exactly when the browser's
parameters of a purchase bring no exception of their own.
-/

namespace CardPayments

/-- Whether a fault is a name that stands for nothing: for no status or for no technical failure. -/
def Fault.IsUnknownName : Fault → Prop
  | .unknownStatus _ | .unknownCallError _ => True
  | _ => False

/-- Whether a response is of a known kind and has one outcome. A purchase has a business result or a
technical failure, and not both. -/
def GatewayResponse.IsSettled : GatewayResponse → Prop
  | .purchase r => r.result.isSome ≠ r.callErrorStatus.isSome
  | .modification _ | .notification _ => True
  | .unrecognised _ => False

instance : DecidablePred GatewayResponse.IsSettled
  | .purchase r => inferInstanceAs (Decidable (r.result.isSome ≠ r.callErrorStatus.isSome))
  | .modification _ | .notification _ => isTrue trivial
  | .unrecognised _ => isFalse id

/-- Microseconds of universal time; a clock without offset is taken to show it. -/
def Moment.instant (m : Moment) : Int := m.clock - m.offset.getD 0

/-- Going over to universal time is no change of the instant. -/
theorem Moment.instant_toUniversal {m u : Moment} (h : m.toUniversal = some u) :
    u.instant = m.instant := by
  cases ho : m.offset with
  | none =>
    simp only [toUniversal, ho, Option.some.injEq] at h
    subst h
    simp only [instant, ho, Option.getD_some, Option.getD_none]
  | some offset =>
    simp only [toUniversal, ho] at h
    split at h
    · obtain rfl := Option.some.inj h
      simp only [instant, ho, Option.getD_some, Int.sub_zero]
    · cases h

/-! ## The status -/

/-- A text that names no status is the only fault of reading one. -/
theorem PaymentStatus.isUnknownName_of_ofText {s : String} {e : Fault}
    (h : PaymentStatus.ofText s = .error e) : e.IsUnknownName := by
  simp only [ofText] at h
  split at h
  · cases h
  · obtain rfl := Except.error.inj h
    trivial

/-- A property that names no technical failure is the only fault of reading a recorded status. -/
theorem PaymentStatus.isUnknownName_of_ofRecorded {result : Option String} {data : Bag} {e : Fault}
    (h : PaymentStatus.ofRecorded result data = .error e) : e.IsUnknownName := by
  have hc : ∀ e, (recordedCallError data).map ofCallError = .error e → e.IsUnknownName := by
    intro e he
    simp only [recordedCallError] at he
    split at he
    · split at he
      · split at he
        · cases he
        · obtain rfl := Except.error.inj he
          trivial
      · cases he
    · cases he
  cases result with
  | none => exact hc e h
  | some code =>
    simp only [ofRecorded] at h
    split at h
    · exact hc e h
    · cases h

/-- No business result goes by the empty text. -/
theorem PspResult.code_ne_empty (result : PspResult) : result.code ≠ "" := by
  cases result <;> decide

/-- The canonical id of a business result is read back as that result. -/
theorem PaymentStatus.ofRecorded_code (result : PspResult) (data : Bag) :
    PaymentStatus.ofRecorded (some result.code) data = .ok (ofResult (some result)) := by
  simp only [ofRecorded, if_neg result.code_ne_empty, PspResult.ofCode?_code]

/-- The technical failure among the properties is read back as that failure. -/
theorem PaymentStatus.ofRecorded_callError (failure : CallErrorStatus) (data : Bag) :
    PaymentStatus.ofRecorded none (data.put Property.callErrorStatus (.text failure.name)) =
      .ok (ofCallError failure) := by
  have ht : Value.isTruthy (.text failure.name) = true := by cases failure <;> decide
  simp only [ofRecorded, recordedCallError, Bag.get?_put, if_true, ht, Value.toText,
    CallErrorStatus.ofName?_name]
  rfl

namespace TransactionInfo

/-- A status that properties carry is told whatever the response says otherwise. -/
theorem statusOr_of_isSome {properties : Bag} {s t : Outcome PaymentStatus}
    (h : (properties.text? Property.hostedPageStatus).isSome) :
    statusOr properties s = statusOr properties t := by
  obtain ⟨name, hn⟩ := Option.isSome_iff_exists.mp h
  simp only [statusOr, hn]

/-- Properties with the same text for the status tell the same. -/
theorem statusOr_congr {a b : Bag} (s : Outcome PaymentStatus)
    (h : a.text? Property.hostedPageStatus = b.text? Property.hostedPageStatus) :
    statusOr a s = statusOr b s := by
  simp only [statusOr, h]

/-- Where nothing but an unknown name can spoil the status of the response, nothing else can spoil
the status that is told. -/
theorem isUnknownName_of_statusOr {properties : Bag} {s : Outcome PaymentStatus} {e : Fault}
    (hs : ∀ e, s = .error e → e.IsUnknownName) (h : statusOr properties s = .error e) :
    e.IsUnknownName := by
  simp only [statusOr] at h
  split at h
  · exact PaymentStatus.isUnknownName_of_ofText h
  · exact hs e h

/-- The technical failure of a purchase is recorded beside the status that its properties carry. -/
theorem text?_purchaseData {r : PurchaseResult} {key : String}
    (h : key ≠ Property.callErrorStatus) :
    Bag.text? (ResponseRecord.purchaseData r) key =
      Bag.text? (r.additionalData.onto (Bag.onto r.formParameters [])) key := by
  simp only [ResponseRecord.purchaseData]
  split
  · exact Bag.text?_put_of_ne _ h _
  · rfl

/-- A settled response has a status, unless a property names an unknown technical failure. -/
theorem isUnknownName_of_status {r : GatewayResponse} (hr : r.IsSettled) {e : Fault}
    (h : r.status = .error e) : e.IsUnknownName := by
  cases r with
  | purchase r =>
    simp only [GatewayResponse.IsSettled] at hr
    cases hresult : r.result <;> cases hfailure : r.callErrorStatus <;>
      simp_all [GatewayResponse.status, PaymentStatus.ofOutcome]
  | modification r =>
    simp only [GatewayResponse.status] at h
    split at h
    · cases h
    · exact PaymentStatus.isUnknownName_of_ofRecorded h
  | notification properties => exact PaymentStatus.isUnknownName_of_ofRecorded h
  | unrecognised kind => exact hr.elim

/-- The columns and properties of a record give the status of the response, which has to be settled
or to carry its status with it. -/
theorem status_of_fill {base record : ResponseRecord} {r : GatewayResponse}
    (h : base.fill r = .ok record)
    (hr : r.IsSettled ∨ ((statusProperties r).text? Property.hostedPageStatus).isSome) :
    statusOr record.additionalData
        (PaymentStatus.ofRecorded record.pspResult record.additionalData) =
      statusOr (statusProperties r) r.status := by
  cases r with
  | purchase r =>
    obtain rfl := Except.ok.inj h
    have ht := text?_purchaseData (r := r) (show Property.hostedPageStatus ≠ _ by decide)
    refine (statusOr_congr _ ht).trans ?_
    rcases hr with hr | hr
    · -- of the two outcomes one is there: as the result column, or among the properties
      congr 1
      simp only [GatewayResponse.IsSettled] at hr
      cases hresult : r.result with
      | some result =>
        cases hfailure : r.callErrorStatus with
        | some failure => simp [hresult, hfailure] at hr
        | none =>
          simp only [GatewayResponse.status, hresult, hfailure, PaymentStatus.ofOutcome]
          exact PaymentStatus.ofRecorded_code result _
      | none =>
        cases hfailure : r.callErrorStatus with
        | some failure =>
          simp only [GatewayResponse.status, hresult, hfailure, PaymentStatus.ofOutcome,
            ResponseRecord.purchaseData, Option.map_none]
          exact PaymentStatus.ofRecorded_callError failure _
        | none => simp [hresult, hfailure] at hr
    · exact statusOr_of_isSome hr
  | modification r =>
    obtain rfl := Except.ok.inj h
    change statusOr r.additionalData _ = statusOr r.additionalData _
    congr 1
    cases hresult : r.result with
    | some result =>
      simp only [GatewayResponse.status, hresult]
      exact PaymentStatus.ofRecorded_code result _
    | none =>
      simp only [GatewayResponse.status, hresult]
      rfl
  | notification properties =>
    obtain rfl := Except.ok.inj h
    rfl
  | unrecognised kind => cases h

/-- A record keeps the references of the response. -/
theorem references_of_fill {a : Attempt} {now : Moment} {r : GatewayResponse}
    {record : ResponseRecord} (h : (ResponseRecord.blank a now).fill r = .ok record) :
    record.pspReference = referenceOf r ∧ record.authCode = authCodeOf r := by
  cases r <;> cases h <;> exact ⟨rfl, rfl⟩

/-- A response of a known kind is recorded whenever universal time reaches the present. -/
theorem ofResponse_record {a : Attempt} {now u : Moment} {r : GatewayResponse}
    (hr : r.IsSettled) (hu : now.toUniversal = some u) :
    ∃ filled, (ResponseRecord.blank a now).fill r = .ok filled ∧
      ResponseRecord.ofResponse a r now = .ok { filled with createdAt := some u } := by
  obtain ⟨filled, hf⟩ : ∃ filled, (ResponseRecord.blank a now).fill r = .ok filled := by
    cases r with
    | unrecognised kind => exact hr.elim
    | _ => exact ⟨_, rfl⟩
  refine ⟨filled, hf, ?_⟩
  simp only [ResponseRecord.ofResponse, hf, recordedMoment, hu]
  rfl

/-- Two tellings of one answer that agree in all but message, code and properties. -/
structure Agrees (fresh replayed : TransactionInfo) : Prop where
  /-- The same status. -/
  status : replayed.status = fresh.status
  /-- The same gateway reference. -/
  pspReference : replayed.pspReference = fresh.pspReference
  /-- The same authorization code. -/
  authCode : replayed.authCode = fresh.authCode
  /-- The same payment. -/
  paymentId : replayed.paymentId = fresh.paymentId
  /-- The same transaction. -/
  transactionId : replayed.transactionId = fresh.transactionId
  /-- The same type. -/
  kind : replayed.kind = fresh.kind
  /-- The same amount. -/
  amount : replayed.amount = fresh.amount
  /-- The same currency. -/
  currency : replayed.currency = fresh.currency
  /-- Obtained at the same instant. -/
  createdAt : replayed.createdAt.map Moment.instant = fresh.createdAt.map Moment.instant
  /-- In effect from the same instant on. -/
  effectiveAt : replayed.effectiveAt.map Moment.instant = fresh.effectiveAt.map Moment.instant

/-- A settled response is always recorded, and its record tells what the response told: the same
status, references, identifiers, amount and instants, or the same unknown name as a fault. -/
theorem replay_agrees_with_response (a : Attempt) {r : GatewayResponse} {now : Moment}
    (hr : r.IsSettled) (hnow : now.toUniversal.isSome) :
    ∃ record, ResponseRecord.ofResponse a r now = .ok record ∧
      ((∃ e, e.IsUnknownName ∧ ofResponse a r now = .error e ∧ ofRecord record = .error e) ∨
        ∃ fresh replayed, ofResponse a r now = .ok fresh ∧ ofRecord record = .ok replayed ∧
          fresh.Agrees replayed) := by
  obtain ⟨u, hu⟩ := Option.isSome_iff_exists.mp hnow
  obtain ⟨filled, hf, hrec⟩ := ofResponse_record (a := a) hr hu
  refine ⟨_, hrec, ?_⟩
  have hs := status_of_fill hf (Or.inl hr)
  cases hstatus : statusOr (statusProperties r) r.status with
  | error e =>
    rw [hstatus] at hs
    have hname := isUnknownName_of_statusOr (fun _ => isUnknownName_of_status hr) hstatus
    refine Or.inl ⟨e, hname, ?_, ?_⟩
    · simp only [ofResponse, hstatus]
      rfl
    · simp only [ofRecord, hs]
      rfl
  | ok status =>
    rw [hstatus] at hs
    obtain ⟨message, code, hm, hc⟩ :
        ∃ message code, r.errorMessage = .ok message ∧ r.errorCode = .ok code := by
      cases r with
      | unrecognised kind => exact hr.elim
      | _ => exact ⟨_, _, rfl, rfl⟩
    obtain ⟨href, hauth⟩ := references_of_fill hf
    have hfor := ResponseRecord.for_of_fill hf
    have hi := Moment.instant_toUniversal hu
    refine Or.inr ⟨_, _, by simp only [ofResponse, hstatus, hm, hc]; rfl,
      by simp only [ofRecord, hs]; rfl, ?_⟩
    exact ⟨rfl, href, hauth, hfor.payment, hfor.transaction, hfor.kind, hfor.amount, hfor.currency,
      congrArg some hi, congrArg some hi⟩

/-- A technical failure whose properties carry a status, an unknown failure and a result of their
own, told on a clock two hours ahead of universal time. -/
theorem replay_agrees_with_response_overridden :
    let r : GatewayResponse := .purchase {
      callErrorStatus := some .responseInvalid
      formParameters := [(Property.hostedPageStatus, .text " canceled ")]
      additionalData :=
        [(Property.callErrorStatus, .text "?"), (Property.pspResult, .text "Error")] }
    let now : Moment := ⟨Moment.day, some 7200000000⟩
    let a : Attempt :=
      ⟨"acc", "pay", "tx", none, .authorize, some (.finite false 10 0), some "EUR", []⟩
    r.IsSettled ∧ now.toUniversal.isSome ∧
      ∃ record, ResponseRecord.ofResponse a r now = .ok record ∧
        ((∃ e, e.IsUnknownName ∧ ofResponse a r now = .error e ∧ ofRecord record = .error e) ∨
          ∃ fresh replayed, ofResponse a r now = .ok fresh ∧ ofRecord record = .ok replayed ∧
            fresh.Agrees replayed) := by
  intro r now a
  have hr : r.IsSettled := by decide
  have hnow : now.toUniversal.isSome := by decide
  exact ⟨hr, hnow, replay_agrees_with_response a hr hnow⟩

end TransactionInfo

/-! ## Message and code -/

/-- Whether the parameters for the browser alone bring a value under a name, which the rest of the
response does not have. -/
def PurchaseResult.BrowserAlone (r : PurchaseResult) (key : String) : Prop :=
  r.additionalData.has key = false ∧ (r.formParameters.text? key).isSome

instance (r : PurchaseResult) : DecidablePred r.BrowserAlone := fun key =>
  inferInstanceAs
    (Decidable (r.additionalData.has key = false ∧ (r.formParameters.text? key).isSome))

namespace GatewayResponse

/-- Whether the bags of a purchase are tables, which have every name once. -/
def HasTables : GatewayResponse → Prop
  | .purchase r => r.formParameters.Distinct ∧ r.additionalData.Distinct
  | _ => True

instance : DecidablePred HasTables
  | .purchase r =>
    inferInstanceAs (Decidable (r.formParameters.Distinct ∧ r.additionalData.Distinct))
  | .modification _ | .notification _ | .unrecognised _ => isTrue trivial

/-- Whether the message of a response is its own: a reason, or the exception that is not only among
the browser's parameters. -/
def KeepsMessage : GatewayResponse → Prop
  | .purchase r => r.reason.isSome ∨ ¬ r.BrowserAlone Property.exceptionMessage
  | _ => True

instance : DecidablePred KeepsMessage
  | .purchase r =>
    inferInstanceAs (Decidable (r.reason.isSome ∨ ¬ r.BrowserAlone Property.exceptionMessage))
  | .modification _ | .notification _ | .unrecognised _ => isTrue trivial

/-- Whether the code of a response is its own: a result, or the exception that is not only among the
browser's parameters. -/
def KeepsCode : GatewayResponse → Prop
  | .purchase r =>
    r.resultCode.isSome ∨ r.result.isSome ∨ ¬ r.BrowserAlone Property.exceptionClass
  | _ => True

instance : DecidablePred KeepsCode
  | .purchase r => inferInstanceAs
    (Decidable (r.resultCode.isSome ∨ r.result.isSome ∨ ¬ r.BrowserAlone Property.exceptionClass))
  | .modification _ | .notification _ | .unrecognised _ => isTrue trivial

end GatewayResponse

namespace TransactionInfo

/-- The record of a purchase shows another text than its additional data exactly where the browser's
parameters alone bring one. -/
theorem text?_purchaseData_eq_iff {r : PurchaseResult} {key : String}
    (hf : r.formParameters.Distinct) (ha : r.additionalData.Distinct)
    (hk : key ≠ Property.callErrorStatus) :
    Bag.text? (ResponseRecord.purchaseData r) key = r.additionalData.text? key ↔
      ¬ r.BrowserAlone key := by
  have hform : (Bag.onto r.formParameters []).get? key = r.formParameters.get? key := by
    rw [Bag.get?_onto_of_distinct hf, Bag.get?_nil, Option.or_none]
  rw [text?_purchaseData hk]
  simp only [PurchaseResult.BrowserAlone, Bag.has, Bag.text?, Bag.get?_onto_of_distinct ha, hform]
  cases r.additionalData.get? key with
  | some value => simp
  | none => simp

/-- A first choice hides whether the second ones agree. -/
theorem or_eq_or_iff {α : Type} (o x y : Option α) : o.or x = o.or y ↔ o.isSome ∨ x = y := by
  cases o <;> simp

/-- A recorded purchase gives the code of the response exactly where the code is its own. -/
theorem ofOutcome_purchaseData_eq_iff {r : PurchaseResult} (hf : r.formParameters.Distinct)
    (ha : r.additionalData.Distinct) :
    ErrorCode.ofOutcome r.resultCode (ResponseRecord.purchaseData r) (r.result.map PspResult.code) =
        ErrorCode.ofOutcome r.resultCode r.additionalData (r.result.map PspResult.code) ↔
      (GatewayResponse.purchase r).KeepsCode := by
  have ht := text?_purchaseData_eq_iff hf ha (show Property.exceptionClass ≠ _ by decide)
  simp only [GatewayResponse.KeepsCode, ErrorCode.ofOutcome, ErrorCode.exceptionClass]
  cases hcode : r.resultCode with
  | some code => simp
  | none =>
    cases hresult : r.result with
    | some result => simp
    | none =>
      simp only [Option.map_none, Option.none_or, Option.isSome_none, Bool.false_eq_true, false_or]
      constructor
      · intro h halone
        have hnone : r.additionalData.text? Property.exceptionClass = none := by
          have hget : r.additionalData.get? Property.exceptionClass = none := by
            simpa [Bag.has] using halone.1
          simp only [Bag.text?, hget, Option.bind_none]
        have hrecord :
            Bag.text? (ResponseRecord.purchaseData r) Property.exceptionClass = none := by
          simpa [hnone] using h
        exact ht.mp (hrecord.trans hnone.symm) halone
      · intro h
        rw [ht.mpr h]

/-- What is told afresh can only be told again if the response was settled or brought its status. -/
theorem settled_or_isSome_of_ofResponse {a : Attempt} {r : GatewayResponse} {now : Moment}
    {fresh : TransactionInfo} (h : ofResponse a r now = .ok fresh) :
    r.IsSettled ∨ ((statusProperties r).text? Property.hostedPageStatus).isSome := by
  cases r with
  | purchase r =>
    by_cases hs : ((statusProperties (.purchase r)).text? Property.hostedPageStatus).isSome
    · exact Or.inr hs
    · left
      have hnone := Option.not_isSome_iff_eq_none.mp hs
      simp only [ofResponse, statusOr, hnone, GatewayResponse.status] at h
      simp only [GatewayResponse.IsSettled]
      intro heq
      cases hresult : r.result <;> cases hfailure : r.callErrorStatus <;>
        simp_all [PaymentStatus.ofOutcome] <;> cases h
  | modification r => exact Or.inl trivial
  | notification properties => exact Or.inl trivial
  | unrecognised kind => 
    simp only [ofResponse, GatewayResponse.status, statusOr] at h
    cases h

/-- The status, the message and the code of what is told afresh. -/
theorem parts_of_ofResponse {a : Attempt} {r : GatewayResponse} {now : Moment}
    {fresh : TransactionInfo} (h : ofResponse a r now = .ok fresh) :
    statusOr (statusProperties r) r.status = .ok fresh.status ∧
      r.errorMessage = .ok fresh.errorMessage ∧ r.errorCode = .ok fresh.errorCode := by
  obtain ⟨status, hstatus, h⟩ := Outcome.exists_of_bind_ok h
  obtain ⟨message, hmessage, h⟩ := Outcome.exists_of_bind_ok h
  obtain ⟨code, hcode, h⟩ := Outcome.exists_of_bind_ok h
  obtain rfl := Except.ok.inj h
  exact ⟨hstatus, hmessage, hcode⟩

/-- An answer that was told and recorded can be told again. The message is then the same exactly
where it is the response's own, and so is the code. -/
theorem replay_explains_as_response_iff {a : Attempt} {r : GatewayResponse} {now : Moment}
    {fresh : TransactionInfo} {record : ResponseRecord} (ht : r.HasTables)
    (hfresh : ofResponse a r now = .ok fresh)
    (hrecord : ResponseRecord.ofResponse a r now = .ok record) :
    ∃ replayed, ofRecord record = .ok replayed ∧
      (replayed.errorMessage = fresh.errorMessage ↔ r.KeepsMessage) ∧
      (replayed.errorCode = fresh.errorCode ↔ r.KeepsCode) := by
  obtain ⟨filled, createdAt, hf, rfl⟩ := ResponseRecord.fill_of_ofResponse hrecord
  obtain ⟨hstatus, hmessage, hcode⟩ := parts_of_ofResponse hfresh
  have hs := status_of_fill hf (settled_or_isSome_of_ofResponse hfresh)
  rw [hstatus] at hs
  refine ⟨_, by simp only [ofRecord, hs]; rfl, ?_⟩
  cases r with
  | purchase r =>
    obtain rfl := Except.ok.inj hf
    rw [← Except.ok.inj hmessage, ← Except.ok.inj hcode]
    refine ⟨?_, ofOutcome_purchaseData_eq_iff ht.1 ht.2⟩
    change CardPayments.errorMessage r.reason (ResponseRecord.purchaseData r) = _ ↔ _
    simp only [CardPayments.errorMessage]
    rw [or_eq_or_iff, text?_purchaseData_eq_iff ht.1 ht.2 (by decide)]
    rfl
  | modification r =>
    obtain rfl := Except.ok.inj hf
    rw [← Except.ok.inj hmessage, ← Except.ok.inj hcode]
    exact ⟨iff_of_true rfl trivial, iff_of_true rfl trivial⟩
  | notification properties =>
    obtain rfl := Except.ok.inj hf
    rw [← Except.ok.inj hmessage, ← Except.ok.inj hcode]
    exact ⟨iff_of_true rfl trivial, iff_of_true rfl trivial⟩
  | unrecognised kind => cases hf

/-- A purchase whose browser parameters alone bring a message, while its additional data has the
name of an exception class without a value. -/
theorem replay_explains_as_response_iff_shadowed :
    let r : GatewayResponse := .purchase {
      callErrorStatus := some .responseNotReceived
      formParameters := [(Property.exceptionMessage, .text "declined"),
        (Property.exceptionClass, .text "issuer.Declined")]
      additionalData := [(Property.exceptionClass, .null)] }
    let now : Moment := ⟨Moment.day, some 0⟩
    let a : Attempt :=
      ⟨"acc", "pay", "tx", none, .purchase, some (.finite false 10 0), some "EUR", []⟩
    r.HasTables ∧ ∃ fresh record, ofResponse a r now = .ok fresh ∧
      ResponseRecord.ofResponse a r now = .ok record ∧ ∃ replayed, ofRecord record = .ok replayed ∧
        replayed.errorMessage ≠ fresh.errorMessage ∧ replayed.errorCode = fresh.errorCode := by
  intro r now a
  have ht : r.HasTables := by decide
  obtain ⟨replayed, hr, hm, hc⟩ :=
    replay_explains_as_response_iff ht (rfl : ofResponse a r now = _) rfl
  exact ⟨ht, _, _, rfl, rfl, replayed, hr, mt hm.mp (by decide), hc.mpr (by decide)⟩

/-- An exception among the browser's parameters is told by the replay and not by the fresh
answer. -/
theorem replay_explains_more_than_response :
    let r : GatewayResponse := .purchase {
      callErrorStatus := some .unknownFailure
      formParameters := [(Property.exceptionMessage, .text "timed out"),
        (Property.exceptionClass, .text "java.net.SocketTimeoutException")] }
    let now : Moment := ⟨63850161600000000, some 0⟩
    let a : Attempt :=
      ⟨"acc-1", "pay-1", "tx-1", none, .authorize, some (.finite false 1000 (-2)), some "EUR", []⟩
    ∃ fresh record replayed, ofResponse a r now = .ok fresh ∧
      ResponseRecord.ofResponse a r now = .ok record ∧ ofRecord record = .ok replayed ∧
      fresh.errorMessage = none ∧ replayed.errorMessage = some "timed out" ∧
      fresh.errorCode = none ∧ replayed.errorCode = some "java.net.SocketTimeoutException" :=
  ⟨_, _, _, rfl, rfl, rfl, rfl, rfl, rfl, rfl⟩

end TransactionInfo

end CardPayments
