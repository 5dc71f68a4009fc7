import CardPayments.Proofs.Engine.Growth
import CardPayments.Proofs.Engine.Lockstep
import CardPayments.Proofs.Notification.Delivery

/-!
# What an item cannot steer

An item may bring anything beside its own fields, also under the names by which the engine finds its
way. Its own fields go before that, so what is recorded of an item is settled by what it matches in
the store, by the event that it reports and by whether that succeeded. Two items that differ in the
rest alone are taken in alike: they are recorded or passed over together, in rows that agree in all
that the engine acts on.
-/

namespace CardPayments

variable {σ : Type}

/-- What of a row an item settles by its own fields and by what it matches. -/
def Row.settled (row : Row) : Row :=
  { row with
    record := { row.record with
      resultCode := none
      pspReference := none
      authCode := none
      refusalReason := none
      additionalData := [] } }

namespace NotificationItem

/-- Whether an item matches a row by its gateway reference. -/
def MatchesRow (item : NotificationItem) (s : Store) (row : Row) : Prop :=
  ∃ reference, item.pspReference = some reference ∧ reference ≠ "" ∧
    s.latestByReference? (some reference) = some row

/-- Whether an item matches a request of the hosted page that opened a pending payment, by the key
of the merchant. -/
def MatchesRequest (item : NotificationItem) (s : Store) (request : HostedRequest)
    (paymentId transactionId : String) : Prop :=
  (∃ key row, item.merchantReference = some key ∧ key ≠ "" ∧
    s.latestRequest? key = some row ∧ row.request = request) ∧
  request.paymentId = some paymentId ∧ paymentId ≠ "" ∧
  request.transactionId = some transactionId ∧ transactionId ≠ ""

/-- Whether an item tells of a transaction of a type, given the type that an authorization has. -/
structure TellsOf (item : NotificationItem) (authorization kind : TransactionType) : Prop where
  /-- An authorization is of that type. -/
  authorization : item.eventCode = authorisation → kind = authorization
  /-- Any other event settles the type by itself. -/
  other : item.eventCode ≠ authorisation → kindOfEvent? item.eventCode = some kind

/-- The account, the payment, the transaction and the type under which an item is recorded. -/
inductive Belongs (item : NotificationItem) (s : Store) :
    String → String → String → TransactionType → Prop
  /-- It matches a row, whose type an authorization takes over if the row reserves an amount. -/
  | row {row : Row} {kind : TransactionType} (found : item.MatchesRow s row)
      (tells : item.TellsOf
        (if row.record.kind = .authorize ∨ row.record.kind = .purchase then row.record.kind
          else .authorize) kind) :
      Belongs item s row.record.accountId row.record.paymentId row.record.transactionId kind
  /-- It matches no row, but a request. -/
  | request {request : HostedRequest} {paymentId transactionId : String} {kind : TransactionType}
      (unknown : ∀ row, ¬ item.MatchesRow s row)
      (found : item.MatchesRequest s request paymentId transactionId)
      (tells : item.TellsOf
        (if request.additionalData.affirms Property.authMode then .authorize else .purchase) kind) :
      Belongs item s request.accountId paymentId transactionId kind

/-- How an item is recorded. -/
structure RecordedIn (item : NotificationItem) (s : Store) (row : Row) : Prop where
  /-- Under what it belongs to. -/
  belongs : item.Belongs s row.record.accountId row.record.paymentId row.record.transactionId
    row.record.kind
  /-- As refused, if it failed. -/
  refused : item.success = false → row.record.pspResult = some PspResult.refused.code
  /-- As authorised, if an authorization succeeded. -/
  authorised : item.success = true → item.eventCode = authorisation →
    row.record.pspResult = some PspResult.authorised.code
  /-- As received, if anything else succeeded. -/
  received : item.success = true → item.eventCode ≠ authorisation →
    row.record.pspResult = some PspResult.received.code
  /-- So that it is told as processed if it succeeded, and else as an error. -/
  status : ∃ info, TransactionInfo.ofRecord row.record = .ok info ∧
    info.status = if item.success then .processed else .error
  /-- Under its gateway reference, if it has one. -/
  reference : ∀ reference, item.pspReference = some reference →
    row.record.pspReference = some reference

/-- An item tells of the type under which it is recorded. -/
theorem tellsOf_kindFor {item : NotificationItem} {kind : TransactionType}
    (h : kindOfEvent? item.eventCode = some kind) (found : NotificationMatch) :
    item.TellsOf (authorizationKind found) (item.kindFor kind found) :=
  ⟨fun hcode => if_pos hcode, fun hcode => by rw [kindFor, if_neg hcode, h]⟩

/-- An item matches a row as it is looked up by its reference. -/
theorem matchesRow_iff {item : NotificationItem} {s : Store} {row : Row} :
    item.MatchesRow s row ↔
      ((nonEmpty item.pspReference).bind fun reference =>
        s.latestByReference? (some reference)) = some row := by
  simp only [MatchesRow, Option.bind_eq_some_iff, nonEmpty_eq_some_iff, and_assoc]

/-- So is a request of the hosted page, if it opened a pending payment. -/
theorem matchesRequest_of_lookup {item : NotificationItem} {s : Store} {found : NotificationMatch}
    (h : (((nonEmpty item.merchantReference).bind s.latestRequest?).bind fun row =>
      NotificationMatch.ofRequest? row.request) = some found) :
    ∃ paymentId transactionId request,
      found = .request request.accountId paymentId transactionId request ∧
        item.MatchesRequest s request paymentId transactionId := by
  obtain ⟨row, hrow, hfound⟩ := Option.bind_eq_some_iff.1 h
  obtain ⟨key, hkey, hlatest⟩ := Option.bind_eq_some_iff.1 hrow
  obtain ⟨hmerchant, hkey⟩ := nonEmpty_eq_some_iff.1 hkey
  unfold NotificationMatch.ofRequest? at hfound
  split at hfound
  · rename_i paymentId transactionId hpayment htransaction
    exact ⟨paymentId, transactionId, row.request, (Option.some.inj hfound).symm,
      ⟨key, row, hmerchant, hkey, hlatest, rfl⟩, (nonEmpty_eq_some_iff.1 hpayment).1,
      (nonEmpty_eq_some_iff.1 hpayment).2, nonEmpty_eq_some_iff.1 htransaction⟩
  · cases hfound

/-- What is found for an item is what it belongs to. -/
theorem belongs_of_find? {item : NotificationItem} {s : Store} {kind : TransactionType}
    {found : NotificationMatch} (hkind : kindOfEvent? item.eventCode = some kind)
    (hfound : item.find? s = some found) :
    item.Belongs s (item.attempt kind found).accountId (item.attempt kind found).paymentId
      (item.attempt kind found).transactionId (item.attempt kind found).kind := by
  have tells := tellsOf_kindFor hkind found
  unfold find? at hfound
  cases hrow : (nonEmpty item.pspReference).bind fun reference =>
      s.latestByReference? (some reference) with
  | some row =>
    rw [hrow] at hfound
    obtain rfl := Option.some.inj hfound
    refine .row (matchesRow_iff.2 hrow) ?_
    have hreserves : authorizationKind (.response row.record) =
        if row.record.kind = .authorize ∨ row.record.kind = .purchase then row.record.kind
        else .authorize := by
      cases h : row.record.kind <;> simp [authorizationKind, h, TransactionType.isAuthorization]
    rw [← hreserves]
    exact tells
  | none =>
    rw [hrow] at hfound
    obtain ⟨paymentId, transactionId, request, rfl, matched⟩ := matchesRequest_of_lookup hfound
    refine .request (fun row hmatches => ?_) matched tells
    rw [matchesRow_iff, hrow] at hmatches
    cases hmatches

/-- The row of an item that is missing from a store is recorded as it should be. -/
theorem recordedIn_of_missing? {item : NotificationItem} {s : Store} {a : Attempt}
    (missing : s.missing? item = some a) {now : Moment} {record : ResponseRecord}
    (made : ResponseRecord.ofResponse a (.notification a.properties) now = .ok record) :
    item.RecordedIn s (s.addResponse record).1 := by
  obtain ⟨kind, found, hkind, hfound, rfl⟩ :=
    Store.exists_of_attempt? (Store.attempt?_of_missing? missing)
  have belongs := belongs_of_find? hkind hfound
  have hfor := ResponseRecord.for_of_ofResponse made
  obtain ⟨info, hinfo, hstatus⟩ := exists_ofRecord_of_made
    (rfl : (item.attempt kind found).properties = item.properties) made
  obtain ⟨filled, _, hfill, rfl⟩ := ResponseRecord.fill_of_ofResponse made
  obtain rfl := Except.ok.inj hfill
  have hresult : item.properties.text? Property.pspResult = some item.result.code :=
    item.text?_pspResult
  refine ⟨belongs, fun hsuccess => ?_, fun hsuccess hcode => ?_, fun hsuccess hcode => ?_,
    ⟨info, hinfo, hstatus⟩, fun reference hreference => text?_pspReference_of_some hreference⟩
  all_goals
    refine hresult.trans ?_
    simp_all [result]

end NotificationItem

/-! ## Two items that differ in the rest -/

namespace ResponseRecord

/-- Properties are recorded at every moment that can be told in universal time, whatever they
are. -/
theorem ofResponse_notification_error_iff {a : Attempt} {properties : Bag} {now : Moment}
    {e : Fault} : ofResponse a (.notification properties) now = .error e ↔
      recordedMoment now = .error e := by
  have hfill : ofResponse a (.notification properties) now = (recordedMoment now).map
      fun createdAt => { blank a now with
        pspResult := properties.text? Property.pspResult
        resultCode := properties.text? Property.resultCode
        pspReference := properties.text? Property.pspReference
        authCode := properties.text? Property.authCode
        refusalReason := properties.text? Property.reason
        additionalData := properties
        createdAt := some createdAt } := by
    unfold ofResponse
    cases recordedMoment now <;> rfl
  rw [hfill]
  cases recordedMoment now <;> simp [Except.map]

end ResponseRecord

namespace NotificationItem

/-- The item with other things beside its own fields. -/
def bringing (item : NotificationItem) (data : Bag) : NotificationItem :=
  { item with additionalData := data }

/-- It is recorded by the same attempt, but for the properties. -/
theorem attempt_bringing (item : NotificationItem) (data : Bag) (kind : TransactionType)
    (found : NotificationMatch) :
    (item.bringing data).attempt kind found =
      { item.attempt kind found with properties := (item.bringing data).properties } := by
  cases found <;> rfl

/-- It tells of the same. -/
theorem TellsOf.of_bringing {item : NotificationItem} {data : Bag}
    {authorization kind : TransactionType} (h : (item.bringing data).TellsOf authorization kind) :
    item.TellsOf authorization kind := ⟨h.authorization, h.other⟩

/-- It belongs to the same. -/
theorem Belongs.of_bringing {item : NotificationItem} {data : Bag} {s : Store}
    {accountId paymentId transactionId : String} {kind : TransactionType}
    (h : (item.bringing data).Belongs s accountId paymentId transactionId kind) :
    item.Belongs s accountId paymentId transactionId kind := by
  cases h with
  | row found tells => exact .row found tells.of_bringing
  | request unknown found tells => exact .request unknown found tells.of_bringing

/-- It is recorded in the same way. -/
theorem RecordedIn.of_bringing {item : NotificationItem} {data : Bag} {s : Store} {row : Row}
    (h : (item.bringing data).RecordedIn s row) : item.RecordedIn s row :=
  ⟨h.belongs.of_bringing, h.refused, h.authorised, h.received, h.status, h.reference⟩

/-- The rows of attempts that differ in what an item brings agree in what it settles. -/
theorem settled_of_made (item : NotificationItem) (data : Bag) {a : Attempt}
    (ha : a.properties = item.properties) {now : Moment} {record record' : ResponseRecord}
    (made : ResponseRecord.ofResponse a (.notification a.properties) now = .ok record)
    (made' : ResponseRecord.ofResponse { a with properties := (item.bringing data).properties }
      (.notification (item.bringing data).properties) now = .ok record') (s : Store) :
    (s.addResponse record).1.settled = (s.addResponse record').1.settled := by
  obtain ⟨universal, huniversal, hcreated⟩ := ResponseRecord.createdAt_of_ofResponse made
  obtain ⟨universal', huniversal', hcreated'⟩ := ResponseRecord.createdAt_of_ofResponse made'
  obtain rfl := Option.some.inj (huniversal.symm.trans huniversal')
  obtain ⟨filled, createdAt, hfill, rfl⟩ := ResponseRecord.fill_of_ofResponse made
  obtain ⟨filled', createdAt', hfill', rfl⟩ := ResponseRecord.fill_of_ofResponse made'
  obtain rfl := Except.ok.inj hfill
  obtain rfl := Except.ok.inj hfill'
  have hresult : a.properties.text? Property.pspResult =
      (item.bringing data).properties.text? Property.pspResult := by
    rw [ha, text?_pspResult, text?_pspResult]
    rfl
  dsimp only at hcreated hcreated'
  simp only [Store.addResponse, ResponseRecord.kept, Row.settled, ResponseRecord.blank, hresult,
    hcreated, hcreated']

end NotificationItem

/-- Two worlds out of one store that agree on an item: it is passed over in both, or recorded in
rows that agree in what an item settles. -/
inductive World.TakenAlike (s : Store) (k : List GatewayCall) (w v : World σ) : Prop
  /-- Nothing is recorded. -/
  | passed (abreast : World.Abreast Eq s s k k w v)
  /-- A row is added in both. -/
  | added {record record' : ResponseRecord}
      (agree : (s.addResponse record).1.settled = (s.addResponse record').1.settled)
      (abreast : World.Abreast Eq (s.addResponse record).2 (s.addResponse record').2 k k w v)

namespace Engine

section Alike

variable {s : Store} {k : List GatewayCall} (c : Collaborators σ) (item : NotificationItem)
  (data : Bag)

/-- The attempts of two items that differ in the rest are recorded in rows that agree. -/
theorem inStep_process_alike {a : Attempt} (ha : a.properties = item.properties) :
    InStep (World.Abreast Eq s s k k) (process c a)
      (process c { a with properties := (item.bringing data).properties })
      (fun _ _ w v => World.TakenAlike s k w v) (World.TakenAlike s k) := by
  have flagged : a.properties.affirms Property.fromHostedPage = true := by
    rw [ha]
    exact item.affirms_properties
  refine (inStep_ofOutcome (fun _ _ => .passed) a.check).bind_eq fun _ => ?_
  unfold carryOut
  rw [if_pos flagged, if_pos (item.bringing data).affirms_properties]
  refine (inStep_consult (fun _ _ => .passed) c.respects_eq.clock).bind_eq fun now => ?_
  refine InStep.bind ((inStep_addResponse (fun _ _ => .passed) c.respects_eq ?_ ?_).rephrase _)
    fun row row' w v => ?_
  · intro e he
    rw [ResponseRecord.ofResponse_notification_error_iff] at he ⊢
    exact he
  · intro e he
    rw [ResponseRecord.ofResponse_notification_error_iff] at he ⊢
    exact he
  · rintro ⟨record, record', made, made', hrow, hrow', h⟩
    have agree := item.settled_of_made data ha made made' s
    obtain ⟨info, hinfo, -⟩ := NotificationItem.exists_ofRecord_of_made ha made
    obtain ⟨info', hinfo', -⟩ := NotificationItem.exists_ofRecord_of_made
      (a := { a with properties := (item.bringing data).properties }) rfl made'
    rw [hrow, hrow', hinfo, hinfo']
    exact .ok (.added agree h)

/-- They are recorded together, or known already together. -/
theorem inStep_recordItem_alike {a : Attempt} (ha : a.properties = item.properties) :
    InStep (World.Abreast Eq s s k k) (recordItem c item a)
      (recordItem c (item.bringing data)
        { a with properties := (item.bringing data).properties })
      (fun _ _ w v => World.TakenAlike s k w v) (World.TakenAlike s k) := by
  have known : InStep (World.Abreast Eq s s k k) (isRecorded c item a)
      (isRecorded c (item.bringing data) { a with properties := (item.bringing data).properties })
      (fun r r' w v => r = r' ∧ World.Abreast Eq s s k k w v) (World.TakenAlike s k) := by
    refine (inStep_readStore (fun _ _ => .passed) c.respects_eq _ _).bind fun row row' w v => ?_
    rintro ⟨⟨rfl, rfl⟩, h⟩
    exact .ok ⟨rfl, h⟩
  refine known.bind_eq fun recorded => ?_
  cases recorded with
  | true => exact InStep.pure fun _ _ => .passed
  | false =>
    exact (inStep_process_alike c item data ha).bind fun _ _ => InStep.pure fun _ _ h => h

/-- They are taken in alike. -/
theorem inStep_takeItem_alike :
    InStep (World.Abreast Eq s s k k) (takeItem c item) (takeItem c (item.bringing data))
      (fun _ _ w v => World.TakenAlike s k w v) (World.TakenAlike s k) := by
  have hevent : (item.bringing data).eventCode = item.eventCode := rfl
  unfold takeItem
  rw [hevent]
  cases hkind : NotificationItem.kindOfEvent? item.eventCode with
  | none => exact InStep.pure fun _ _ => .passed
  | some kind =>
    refine (inStep_readStore (fun _ _ => .passed) c.respects_eq item.find?
      (item.bringing data).find?).bind fun found found' w v => ?_
    rintro ⟨⟨rfl, rfl⟩, h⟩
    have hfound : (item.bringing data).find? s = item.find? s := rfl
    rw [hfound]
    cases item.find? s with
    | none => exact .ok (.passed h)
    | some found =>
      have hcheck : ((item.bringing data).attempt kind found).check =
          (item.attempt kind found).check := by
        rw [item.attempt_bringing]
        rfl
      dsimp only
      rw [hcheck]
      cases (item.attempt kind found).check with
      | ok =>
        rw [item.attempt_bringing]
        exact inStep_recordItem_alike c item data rfl w v h
      | error e =>
        dsimp only
        by_cases hbusiness : e.isBusiness = true
        · rw [if_pos hbusiness]
          exact .ok (.passed h)
        · rw [if_neg hbusiness]
          exact .error (.passed h)

end Alike

/-- An item is passed over, or recorded as it should be. -/
theorem recordedIn_of_takeItem (c : Collaborators σ) (item : NotificationItem) (w : World σ) :
    (takeItem c item w).2.store = w.store ∨ ∃ row, item.RecordedIn w.store row ∧
      (takeItem c item w).2.store = { w.store with rows := w.store.rows ++ [row] } := by
  rcases h : takeItem c item w with ⟨r, w'⟩
  obtain takes | ⟨hstore, -⟩ := takeItem_cases h
  · dsimp only
    generalize w'.store = t at takes
    cases takes with
    | passed known => exact Or.inl rfl
    | added missing made =>
      exact Or.inr ⟨_, NotificationItem.recordedIn_of_missing? missing made, rfl⟩
  · exact Or.inl hstore

/-- The row that has been added is the one that is recorded. -/
theorem recordedIn_of_added {c : Collaborators σ} {item : NotificationItem} {w : World σ}
    {record : ResponseRecord} (h : (takeItem c item w).2.store = (w.store.addResponse record).2) :
    item.RecordedIn w.store (w.store.addResponse record).1 := by
  obtain hsame | ⟨row, hrow, hstore⟩ := recordedIn_of_takeItem c item w
  · have hlength := Store.length_addResponse w.store record
    rw [← h, hsame] at hlength
    omega
  · have hrows := congrArg Store.rows (hstore.symm.trans h)
    have hlast : [row] = [(w.store.addResponse record).1] := List.append_cancel_left hrows
    rw [← List.singleton_inj.1 hlast]
    exact hrow

/-- Nothing that an item brings beside its own fields can steer the engine.

Taking an item in makes no call, and changes nothing but that it may add one row, which is recorded
in the account, the payment and the transaction of what the item matches, under the type that the
item tells of, and with the result and the status of its own event. An item that differs in the rest
alone is taken in alike from the same state: it ends in the same way and asks the same of the
collaborators, and it is passed over where the other one is, or recorded in a row that agrees with
that of the other one in its number, the account, the payment, the transaction, the type, the
amount, the currency, the business result and the moment, and in the gateway reference if the item
has one. -/
theorem notification_cannot_steer (c : Collaborators σ) (w : World σ) (item : NotificationItem) :
    (takeItem c item w).2.calls = w.calls ∧
    ((takeItem c item w).2.store = w.store ∨ ∃ row, item.RecordedIn w.store row ∧
      (takeItem c item w).2.store = { w.store with rows := w.store.rows ++ [row] }) ∧
    ∀ data, (takeItem c (item.bringing data) w).1 = (takeItem c item w).1 ∧
      (takeItem c (item.bringing data) w).2.outside = (takeItem c item w).2.outside ∧
      (((takeItem c item w).2.store = w.store ∧
          (takeItem c (item.bringing data) w).2.store = w.store) ∨
        ∃ row row', row.settled = row'.settled ∧
          item.RecordedIn w.store row ∧ item.RecordedIn w.store row' ∧
          (takeItem c item w).2.store = { w.store with rows := w.store.rows ++ [row] } ∧
          (takeItem c (item.bringing data) w).2.store =
            { w.store with rows := w.store.rows ++ [row'] }) := by
  refine ⟨(grows_takeItem c item w).calls, recordedIn_of_takeItem c item w, fun data => ?_⟩
  have abreast : World.Abreast Eq w.store w.store w.calls w.calls w w := ⟨rfl, rfl, rfl, rfl, rfl⟩
  obtain ⟨houtcome, alike⟩ := (inStep_takeItem_alike c item data w w abreast).same
    (fun _ _ _ _ h => ⟨rfl, h⟩) fun _ _ h => h
  refine ⟨houtcome.symm, ?_⟩
  cases alike with
  | passed h => exact ⟨h.outside.symm, Or.inl ⟨h.left, h.right⟩⟩
  | added agree h =>
    exact ⟨h.outside.symm, Or.inr ⟨_, _, agree, recordedIn_of_added h.left,
      (recordedIn_of_added h.right).of_bringing, h.left, h.right⟩⟩

end Engine

end CardPayments
