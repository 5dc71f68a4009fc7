import CardPayments.Proofs.Engine.Course
import CardPayments.Proofs.Record

/-!
# Progress

What comes of a step when nothing stands in its way: the store opens and commits, the clock shows a
time that can be told in universal time, the billing platform answers, and the gateway gives an
answer that has a status. Then a call that can be gathered is made, and its answer is recorded.
-/

namespace CardPayments

variable {σ α β : Type}

/-- Collaborators that do what it takes to record something. -/
structure Collaborators.Records (c : Collaborators σ) : Prop where
  /-- The clock shows a time of the calendar. -/
  clock : ∀ s, ∃ now universal, (c.clock s).1 = .ok now ∧ now.toUniversal = some universal
  /-- Units of work open. -/
  opening : ∀ access s, (c.opening access s).1 = .ok ()
  /-- Units of work are committed. -/
  committing : ∀ s, (c.committing s).1 = .ok ()

/-- Collaborators that do what it takes to call the gateway and to record what it answers. -/
structure Collaborators.Works (c : Collaborators σ) : Prop extends c.Records where
  /-- Every account is known. -/
  account : ∀ id s, ∃ account, (c.account id s).1 = .ok account
  /-- Every transaction has a key. -/
  externalKey : ∀ payment transaction s, ∃ key, (c.externalKey payment transaction s).1 = .ok key
  /-- Every call has an answer with a status. -/
  gateway : ∀ call s, ∃ response status,
    (c.gateway call s).1 = .ok response ∧ response.status = .ok status

/-- The steady collaborators record what they are told. -/
theorem Collaborators.records_steady {now universal : Moment} (h : now.toUniversal = some universal)
    (answer : Outcome GatewayResponse) : (steady now answer).Records :=
  ⟨fun _ => ⟨now, universal, rfl, h⟩, fun _ _ => rfl, fun _ => rfl⟩

/-- With an answer that has a status they do everything. -/
theorem Collaborators.works_steady {now universal : Moment} (h : now.toUniversal = some universal)
    {response : GatewayResponse} {status : PaymentStatus} (hstatus : response.status = .ok status) :
    (steady now (.ok response)).Works :=
  ⟨records_steady h _, fun _ _ => ⟨_, rfl⟩, fun _ _ _ => ⟨_, rfl⟩,
    fun _ _ => ⟨response, status, rfl, hstatus⟩⟩

/-- A response of a known kind has a record, if the moment can be told in universal time. -/
theorem ResponseRecord.exists_ofResponse_of_recognised (a : Attempt) {response : GatewayResponse}
    (recognised : ∀ kind, response ≠ .unrecognised kind) {now universal : Moment}
    (hnow : now.toUniversal = some universal) :
    ∃ record, ofResponse a response now = .ok record := by
  have hrecorded : recordedMoment now = .ok universal := by
    unfold recordedMoment
    rw [hnow]
  cases response with
  | unrecognised kind => exact absurd rfl (recognised kind)
  | purchase r => exact ⟨_, by simp only [ofResponse, fill, hrecorded]; rfl⟩
  | modification r => exact ⟨_, by simp only [ofResponse, fill, hrecorded]; rfl⟩
  | notification properties => exact ⟨_, by simp only [ofResponse, fill, hrecorded]; rfl⟩

/-- So has a response with a status, which is always of a known kind. -/
theorem ResponseRecord.exists_ofResponse (a : Attempt) {response : GatewayResponse}
    {status : PaymentStatus} (hstatus : response.status = .ok status) {now universal : Moment}
    (hnow : now.toUniversal = some universal) :
    ∃ record, ofResponse a response now = .ok record := by
  refine exists_ofResponse_of_recognised a ?_ hnow
  rintro kind rfl
  cases hstatus

namespace Engine

/-- Whether a step finds a value, and leaves everything but the collaborators alone. -/
def Finds (x : Engine σ α) (w : World σ) (a : α) : Prop := ∃ w', x w = (.ok a, w') ∧ w.Idle w'

/-- Whether a step ends so: with this outcome, this store and these further calls, each with its
answer. -/
def Ends (x : Engine σ α) (w : World σ) (r : Outcome α) (store : Store)
    (made : List (Exchange GatewayCall GatewayResponse)) : Prop :=
  ∃ w', x w = (r, w') ∧ w.Becomes store made w'

/-- What is found first does not change how a step ends. -/
theorem Ends.of_bind {x : Engine σ α} {f : α → Engine σ β} {w w₁ : World σ} {a : α} {r : Outcome β}
    {store : Store} {made : List (Exchange GatewayCall GatewayResponse)}
    (hx : x w = (.ok a, w₁)) (idle : w.Idle w₁) (h : Ends (f a) w₁ r store made) :
    Ends (x >>= f) w r store made := by
  obtain ⟨w', hw', becomes⟩ := h
  exact ⟨w', (bind_ok f hx).trans hw', idle.trans_becomes becomes⟩

/-- A step that fails ends what follows it. -/
theorem Ends.of_bind_error {x : Engine σ α} (f : α → Engine σ β) {w w₁ : World σ} {e : Fault}
    (hx : x w = (.error e, w₁)) (idle : w.Idle w₁) : Ends (x >>= f) w (.error e) w.store [] :=
  ⟨w₁, bind_error f hx, idle.becomes⟩

/-- A step ends as another one does that it comes down to. -/
theorem Ends.of_eq {x y : Engine σ α} {w w₁ : World σ} {r : Outcome α} {store : Store}
    {made : List (Exchange GatewayCall GatewayResponse)} (heq : y w = x w₁) (idle : w.Idle w₁)
    (h : Ends x w₁ r store made) : Ends y w r store made := by
  obtain ⟨w', hw', becomes⟩ := h
  exact ⟨w', heq.trans hw', idle.trans_becomes becomes⟩

theorem Finds.of_bind {x : Engine σ α} {f : α → Engine σ β} {w w₁ : World σ} {a : α} {b : β}
    (hx : x w = (.ok a, w₁)) (idle : w.Idle w₁) (h : Finds (f a) w₁ b) : Finds (x >>= f) w b := by
  obtain ⟨w', hw', idle'⟩ := h
  exact ⟨w', (bind_ok f hx).trans hw', idle.trans idle'⟩

theorem Finds.rephrase {x : Engine σ α} {w : World σ} {a : α} (h : Finds x w a)
    (f : Fault → Fault) : Finds (rephrase f x) w a := by
  obtain ⟨w', hw', idle⟩ := h
  exact ⟨w', rephrase_ok f hw', idle⟩

theorem Ends.rephrase {x : Engine σ α} {w : World σ} {a : α} {store : Store}
    {made : List (Exchange GatewayCall GatewayResponse)} (h : Ends x w (.ok a) store made)
    (f : Fault → Fault) : Ends (rephrase f x) w (.ok a) store made := by
  obtain ⟨w', hw', becomes⟩ := h
  exact ⟨w', rephrase_ok f hw', becomes⟩

/-- A collaborator that does not fail gives its answer. -/
theorem finds_consult {f : σ → Outcome α × σ} {w : World σ} {a : α}
    (h : (f w.outside).1 = .ok a) : Finds (consult f) w a :=
  ⟨{ w with outside := (f w.outside).2 }, congrArg (·, _) h, rfl, rfl, rfl⟩

/-- A gateway that answers is told of with its answer. -/
theorem ends_callGateway {c : Collaborators σ} {call : GatewayCall} {w : World σ}
    {response : GatewayResponse} (h : (c.gateway call w.outside).1 = .ok response) :
    Ends (callGateway c call) w (.ok response) w.store [⟨call, .ok response⟩] := by
  rcases hcall : callGateway c call w with ⟨r, w'⟩
  obtain ⟨answer, hanswer, becomes, ⟨e, rfl, -⟩ | ⟨response', rfl, rfl⟩⟩ := callGateway_cases hcall
  · rw [h] at hanswer
    cases hanswer
  · rw [h] at hanswer
    obtain rfl := Except.ok.inj hanswer
    exact ⟨w', hcall, becomes⟩

/-- What is looked up is found, if units of work open for it. -/
theorem finds_readStore_of_opening {c : Collaborators σ}
    (opening : ∀ s, (c.opening .reading s).1 = .ok ()) (query : Store → α) (w : World σ) :
    Finds (readStore c query) w (query w.store) := by
  obtain ⟨w₁, hopen, idle⟩ := finds_consult (opening w.outside)
  refine .of_bind hopen idle ⟨w₁, ?_, .refl w₁⟩
  rw [← idle.store]
  rfl

/-! ## Recording -/

section Records

variable {c : Collaborators σ} (hc : c.Records)
include hc

theorem finds_readStore (query : Store → α) (w : World σ) :
    Finds (readStore c query) w (query w.store) :=
  finds_readStore_of_opening (hc.opening .reading) query w

theorem finds_read (operation : String) (query : Store → α) (w : World σ) :
    Finds (read c operation query) w (query w.store) := (finds_readStore hc query w).rephrase _

/-- A change that can be made is made. -/
theorem ends_writeStore (change : Store → Outcome (α × Store)) {w : World σ} {a : α}
    {store : Store} (h : change w.store = .ok (a, store)) :
    Ends (writeStore c change) w (.ok a) store [] := by
  obtain ⟨w₁, hopen, idle⟩ := finds_consult (hc.opening .writing w.outside)
  obtain ⟨w₂, hcommit, idle'⟩ := finds_consult (hc.committing w₁.outside)
  refine .of_bind hopen idle (.of_bind (rfl : look change w₁ = _) (.refl w₁) ?_)
  rw [idle.store, h]
  refine .of_bind (rfl : ofOutcome (.ok (a, store)) w₁ = _) (.refl w₁) (.of_bind hcommit idle' ?_)
  exact ⟨{ w₂ with store }, rfl, rfl, (List.append_nil _).symm, rfl⟩

theorem ends_write (operation : String) (change : Store → Outcome (α × Store)) {w : World σ}
    {a : α} {store : Store} (h : change w.store = .ok (a, store)) :
    Ends (write c operation change) w (.ok a) store [] := (ends_writeStore hc change h).rephrase _

/-- The record of a response is added. -/
theorem ends_addResponse {a : Attempt} {response : GatewayResponse} {now : Moment}
    {record : ResponseRecord} (made : ResponseRecord.ofResponse a response now = .ok record)
    (w : World σ) :
    Ends (writeStore c fun s => do
      let record ← ResponseRecord.ofResponse a response now
      pure (s.addResponse record)) w (.ok (w.store.addResponse record).1)
      (w.store.addResponse record).2 [] := by
  refine ends_writeStore hc _ ?_
  rw [made]
  rfl

/-- An answer with a status is recorded and told. -/
theorem ends_recordResponse (a : Attempt) {response : GatewayResponse} {status : PaymentStatus}
    (hstatus : response.status = .ok status) (w : World σ) :
    ∃ now record, ResponseRecord.ofResponse a response now = .ok record ∧
      Ends (recordResponse c a response) w (TransactionInfo.ofResponse a response now)
        (w.store.addResponse record).2 [] := by
  obtain ⟨now, universal, hclock, hnow⟩ := hc.clock w.outside
  obtain ⟨record, hrecord⟩ := ResponseRecord.exists_ofResponse a hstatus hnow
  obtain ⟨w₁, hconsult, idle⟩ := finds_consult hclock
  obtain ⟨w₂, hwrite, becomes⟩ :=
    (ends_addResponse hc hrecord w₁).rephrase (lostFault a response status)
  refine ⟨now, record, hrecord, .of_bind hconsult idle ?_⟩
  rw [hstatus]
  refine .of_bind (rfl : ofOutcome (.ok status) w₁ = _) (.refl w₁) ⟨w₂, ?_, ?_⟩
  · exact bind_ok _ hwrite
  · rw [← idle.store]
    exact becomes

/-- An attempt that does not come from the hosted page comes down to looking for its row, and to
replaying it or carrying the attempt out. -/
theorem process_eq_executeOrReplay {a : Attempt} (checked : a.check = .ok ())
    (unflagged : a.properties.affirms Property.fromHostedPage = false) (w : World σ) :
    ∃ w₁, w.Idle w₁ ∧ process c a w =
      executeOrReplay c a ((w.store.latestAuthorization? a.paymentId).map Row.record)
        (w.store.modeFor a) w₁ := by
  obtain ⟨w₁, hprior, idle⟩ := finds_read hc "get_successful_authorization_response"
    (fun s => (s.latestAuthorization? a.paymentId).map Row.record) w
  refine ⟨w₁, idle, ?_⟩
  unfold process carryOut
  rw [checked, unflagged]
  exact (bind_ok _ (rfl : ofOutcome (.ok ()) w = (.ok (), w))).trans (bind_ok _ hprior)

/-- An attempt without a row of its own is carried out. -/
theorem process_of_unknown {a : Attempt} (checked : a.check = .ok ())
    (unflagged : a.properties.affirms Property.fromHostedPage = false) {w : World σ}
    (unknown : w.store.latestOf? a.transactionId a.kind = none) :
    ∃ w₁, w.Idle w₁ ∧ process c a w =
      (if w.store.modeFor a = .modification
        then executeFollowUp c a ((w.store.latestAuthorization? a.paymentId).map Row.record)
        else executeInitial c a (w.store.modeFor a)) w₁ := by
  obtain ⟨w₁, idle, hprocess⟩ := process_eq_executeOrReplay hc checked unflagged w
  obtain ⟨w₂, hexisting, idle'⟩ := finds_read hc "get_transaction_response"
    (·.latestOf? a.transactionId a.kind) w₁
  rw [idle.store, unknown] at hexisting
  exact ⟨w₂, idle.trans idle', hprocess.trans (bind_ok _ hexisting)⟩

/-- A purchase that has a row to return to lays its properties over it. -/
theorem ends_purchase_of_found {w : World σ} {a : Attempt} (checked : a.check = .ok ()) {row : Row}
    {store : Store}
    (found : w.store.updateResponse a.transactionId a.properties = (some row, store)) :
    Ends (purchase c a) w (TransactionInfo.ofRecord row.record) store [] := by
  obtain ⟨w₁, hwrite, becomes⟩ := ends_write hc "update_response"
    (fun s => pure (s.updateResponse a.transactionId a.properties)) (w := w)
    (congrArg Except.ok found)
  unfold purchase
  rw [checked]
  exact .of_bind (rfl : ofOutcome (.ok ()) w = _) (.refl w) ⟨w₁, bind_ok _ hwrite, becomes⟩

end Records

end Engine

/-! ## Gathering a call -/

/-- The payment method that an attempt is charged to. -/
def Store.methodFor (s : Store) (a : Attempt) : PaymentMethod :=
  match nonEmpty a.paymentMethodId with
  | none => { id := none }
  | some id => (s.method? (some id)).getD { id := some id }

/-- What an attempt that begins a payment knows about it. -/
def Store.propertiesFor (s : Store) (a : Attempt) : Bag :=
  Bag.merge [(s.methodFor a).properties, a.properties]

/-- Whether the gateway can be told about a payment. -/
structure Attempt.Tellable (a : Attempt) (properties : Bag) : Prop where
  /-- The properties that stand for whole numbers do. -/
  whole : ∀ key ∈ [Property.captureDelayHours, Property.installments, Property.secureThreshold],
    ∃ n, properties.int? key = .ok n
  /-- The amount is finite. -/
  amount : a.amount.all Decimal.isFinite = true
  /-- The currency is three letters in upper case. -/
  currency : a.currency.all (fun currency => isCurrencyCode (Text.toUpper currency)) = true

/-- An attempt that is neither refused nor impossible to tell the gateway about. -/
structure Attempt.Valid (s : Store) (a : Attempt) : Prop where
  /-- The attempt passes its check. -/
  checked : a.check = .ok ()
  /-- The gateway can be told about it. -/
  tellable : a.Tellable (s.propertiesFor a)

/-- An attempt that brings no properties is valid by its check, its amount and its currency. -/
theorem Attempt.Valid.of_bare {s : Store} {a : Attempt} (checked : a.check = .ok ())
    (method : a.paymentMethodId = none) (properties : a.properties = [])
    (amount : a.amount.all Decimal.isFinite = true)
    (currency : a.currency.all (fun currency => isCurrencyCode (Text.toUpper currency)) = true) :
    a.Valid s := by
  refine ⟨checked, fun key _ => ⟨none, ?_⟩, amount, currency⟩
  have hnothing : s.propertiesFor a = [] := by
    unfold Store.propertiesFor Store.methodFor
    rw [method, properties]
    rfl
  rw [hnothing]
  rfl

/-- The circumstances are known where the whole numbers are. -/
theorem PaymentInfo.exists_ofProperties {properties : Bag}
    (h : ∀ key ∈ [Property.captureDelayHours, Property.installments, Property.secureThreshold],
      ∃ n, properties.int? key = .ok n) (account : Option Account) (token : Option String) :
    ∃ info, ofProperties account token properties = .ok info := by
  obtain ⟨delay, hdelay⟩ := h Property.captureDelayHours (by decide)
  obtain ⟨installments, hinstallments⟩ := h Property.installments (by decide)
  obtain ⟨threshold, hthreshold⟩ := h Property.secureThreshold (by decide)
  exact ⟨_, by simp only [ofProperties, hdelay, hinstallments, hthreshold]; rfl⟩

namespace PaymentData

/-- A currency of three letters passes its check. -/
theorem exists_currency {currency : Option String}
    (h : currency.all (fun c => isCurrencyCode (Text.toUpper c)) = true) :
    ∃ upper, Checked.under (.field "currency") (Checked.option checkCurrency currency) =
      .ok upper := by
  cases currency with
  | none => exact ⟨none, rfl⟩
  | some c =>
    rw [Option.all_some] at h
    simp only [Checked.option, checkCurrency, if_pos h]
    exact ⟨_, rfl⟩

/-- A finite amount and a currency of three letters make payment data. -/
theorem exists_make {amount : Option Decimal} {currency : Option String}
    (hamount : amount.all Decimal.isFinite = true)
    (hcurrency : currency.all (fun c => isCurrencyCode (Text.toUpper c)) = true)
    (externalKey : String) (info : PaymentInfo) :
    ∃ data, make amount currency externalKey info = .ok data := by
  have ha : Checked.under (.field "amount") (Checked.option checkAmount amount) = .ok amount := by
    cases amount with
    | none => rfl
    | some a =>
      rw [Option.all_some] at hamount
      simp only [Checked.option, checkAmount, if_pos hamount]
      rfl
  obtain ⟨upper, hc⟩ := exists_currency hcurrency
  exact ⟨_, by simp only [make, ofParts, ha, hc]; rfl⟩

/-- An amount that is not finite is the only defect where the currency is three letters. -/
theorem make_of_not_finite {amount : Option Decimal} {currency : Option String}
    (hamount : amount.all Decimal.isFinite = false)
    (hcurrency : currency.all (fun c => isCurrencyCode (Text.toUpper c)) = true)
    (externalKey : String) (info : PaymentInfo) :
    make amount currency externalKey info =
      .error (.invalidFields [⟨.finiteNumber, [.field "amount"]⟩]) := by
  obtain ⟨upper, hc⟩ := exists_currency hcurrency
  cases amount with
  | none => cases hamount
  | some a =>
    rw [Option.all_some] at hamount
    have ha : Checked.under (.field "amount") (Checked.option checkAmount (some a)) =
        .defects [⟨.finiteNumber, [.field "amount"]⟩] := by
      simp only [Checked.option, checkAmount, if_neg (Bool.eq_false_iff.1 hamount)]
      rfl
    simp only [make, ofParts, ha, hc]
    rfl

end PaymentData

namespace Engine

section Works

variable {c : Collaborators σ} (hc : c.Works)
include hc

theorem finds_loadMethod (a : Attempt) (w : World σ) :
    Finds (loadMethod c a) w (w.store.methodFor a) := by
  unfold loadMethod Store.methodFor
  cases nonEmpty a.paymentMethodId with
  | none => exact ⟨w, rfl, .refl w⟩
  | some id =>
    obtain ⟨w₁, hread, idle⟩ := finds_read hc.toRecords "get_payment_method"
      (·.method? (some id)) w
    exact .of_bind hread idle ⟨w₁, rfl, .refl w₁⟩

/-- What the gateway is told about a payment is found, if it can be told about it. -/
theorem finds_paymentData {a : Attempt} {properties : Bag} (h : a.Tellable properties)
    (account : Account) (method : PaymentMethod) (w : World σ) :
    ∃ payment, Finds (paymentData c a account method properties) w payment := by
  obtain ⟨key, hkey⟩ := hc.externalKey a.paymentId a.transactionId w.outside
  obtain ⟨w₁, hconsult, idle⟩ := finds_consult hkey
  obtain ⟨info, hinfo⟩ := PaymentInfo.exists_ofProperties h.whole (some account) method.token
  obtain ⟨payment, hmake⟩ := PaymentData.exists_make h.amount h.currency key info
  refine ⟨payment, .of_bind hconsult idle ?_⟩
  rw [hinfo]
  refine .of_bind (rfl : ofOutcome (.ok info) w₁ = _) (.refl w₁) ?_
  rw [hmake]
  exact ⟨w₁, rfl, .refl w₁⟩

/-- The call that begins a payment is gathered, if the gateway can be told about it. -/
theorem finds_initialCall {a : Attempt} {w : World σ} (h : a.Tellable (w.store.propertiesFor a))
    (mode : CallMode) : ∃ call, Finds (initialCall c a mode) w call := by
  obtain ⟨account, haccount⟩ := hc.account a.accountId w.outside
  obtain ⟨w₁, hconsult, idle⟩ := finds_consult haccount
  obtain ⟨w₂, hmethod, idle'⟩ := finds_loadMethod hc a w₁
  rw [idle.store] at hmethod
  obtain ⟨payment, w₃, hw₃, idle₃⟩ := finds_paymentData hc h account (w.store.methodFor a) w₂
  exact ⟨_, .of_bind hconsult idle (.of_bind hmethod idle' (.of_bind hw₃ idle₃
    ⟨w₃, rfl, .refl w₃⟩))⟩

/-- The call that acts on an authorization is gathered, if the gateway can be told about it. -/
theorem finds_followUpCall {a : Attempt} (h : a.Tellable a.properties) (reference : String)
    (w : World σ) : ∃ call, Finds (followUpCall c a reference) w call := by
  obtain ⟨account, haccount⟩ := hc.account a.accountId w.outside
  obtain ⟨w₁, hconsult, idle⟩ := finds_consult haccount
  obtain ⟨w₂, hmethod, idle'⟩ := finds_loadMethod hc a w₁
  obtain ⟨payment, w₃, hw₃, idle₃⟩ := finds_paymentData hc h account (w₁.store.methodFor a) w₂
  exact ⟨_, .of_bind hconsult idle (.of_bind hmethod idle' (.of_bind hw₃ idle₃
    ⟨w₃, rfl, .refl w₃⟩))⟩

/-- A call is made, answered, recorded and told. -/
theorem ends_conclude (a : Attempt) (call : GatewayCall) (w : World σ) :
    ∃ response now record, (∃ s, (c.gateway call s).1 = .ok response) ∧
      ResponseRecord.ofResponse a response now = .ok record ∧
      Ends (conclude c a call) w (TransactionInfo.ofResponse a response now)
        (w.store.addResponse record).2 [⟨call, .ok response⟩] := by
  obtain ⟨response, status, hanswer, hstatus⟩ := hc.gateway call w.outside
  obtain ⟨w₁, hcall, called⟩ := ends_callGateway hanswer
  obtain ⟨now, record, hrecord, w₂, hw₂, becomes⟩ :=
    ends_recordResponse hc.toRecords a hstatus w₁
  rw [called.store] at becomes
  exact ⟨response, now, record, ⟨_, hanswer⟩, hrecord, w₂, (bind_ok _ hcall).trans hw₂,
    called.trans becomes⟩

/-- An attempt that begins a payment makes its call, which is answered, recorded and told. -/
theorem ends_executeInitial {a : Attempt} {w : World σ} (h : a.Tellable (w.store.propertiesFor a))
    (mode : CallMode) : ∃ call response now record,
      call.operation = (initialOperation mode).name ∧
      (∃ s, (c.gateway call s).1 = .ok response) ∧
      ResponseRecord.ofResponse a response now = .ok record ∧
      Ends (executeInitial c a mode) w (TransactionInfo.ofResponse a response now)
        (w.store.addResponse record).2 [⟨call, .ok response⟩] := by
  obtain ⟨call, w₁, hcall, idle⟩ := finds_initialCall hc h mode
  obtain ⟨account, payment, user, split, rfl⟩ := initialCall_ok hcall
  obtain ⟨response, now, record, hanswer, hrecord, hends⟩ := ends_conclude hc a
    (.initial (initialOperation mode) account payment user split) w₁
  rw [idle.store] at hends
  refine ⟨.initial (initialOperation mode) account payment user split, response, now, record, rfl,
    hanswer, hrecord, ?_⟩
  rw [executeInitial_eq]
  exact .of_bind hcall idle hends

end Works

end Engine

end CardPayments
