import CardPayments.Engine.Transaction
import CardPayments.Proofs.Engine.Laws

/-!
# Blame

Where the business errors of a transaction come from. Collaborators fail for reasons of their own,
so before the gateway is called only bad input, a missing authorization and a failure of the store
are told as business errors.
-/

namespace CardPayments

variable {σ α : Type}

/-- Collaborators that fail for reasons of their own. Only the gateway may raise business errors. -/
structure Collaborators.Ordinary (c : Collaborators σ) : Prop where
  /-- The clock. -/
  clock : ∀ s e, (c.clock s).1 = .error e → e.isBusiness = false
  /-- The accounts of the billing platform. -/
  account : ∀ id s e, (c.account id s).1 = .error e → e.isBusiness = false
  /-- The keys of the billing platform. -/
  externalKey : ∀ payment transaction s e,
    (c.externalKey payment transaction s).1 = .error e → e.isBusiness = false
  /-- Opening a unit of work. -/
  opening : ∀ access s e, (c.opening access s).1 = .error e → e.isBusiness = false
  /-- Committing a unit of work. -/
  committing : ∀ s e, (c.committing s).1 = .error e → e.isBusiness = false

/-- Collaborators that do everything they are asked, with a gateway that always answers the same. -/
def Collaborators.steady (now : Moment) (answer : Outcome GatewayResponse) :
    Collaborators Unit where
  settings := {}
  page := none
  clock s := (.ok now, s)
  freshKey s := ("key", s)
  account id s := (.ok { id }, s)
  externalKey _ _ s := (.ok "key", s)
  openPending _ s := (.ok ⟨"payment", "transaction"⟩, s)
  gateway _ s := (answer, s)
  opening _ s := (.ok (), s)
  committing s := (.ok (), s)

/-- Whether a fault tells that the gateway has not been called: of the business errors, bad input, a
missing authorization and a failure of the store do. -/
def Fault.IsEarly : Fault → Prop
  | .business (.invalidInput ..) | .business (.missingAuthorization ..)
  | .business (.recordStore ..) => True
  | e => e.isBusiness = false

/-- No fault but a business error tells anything. -/
theorem Fault.IsEarly.of_isBusiness {e : Fault} (h : e.isBusiness = false) : e.IsEarly := by
  cases e with
  | business e => cases h
  | _ => rfl

/-! ## Early faults -/

/-- A fault of one computation after another is a fault of one of them. -/
theorem Fault.of_bind {P : Fault → Prop} {β : Type} {x : Outcome α} {f : α → Outcome β}
    (hx : ∀ e, x = .error e → P e) (hf : ∀ a e, f a = .error e → P e) (e : Fault)
    (h : (x >>= f) = .error e) : P e := by
  cases x with
  | error e' => exact hx e (by rw [Except.error.inj h])
  | ok a => exact hf a e h

/-- Checking an attempt ends in bad input, or in an amount that cannot be compared. -/
theorem Attempt.isEarly_of_check {a : Attempt} {e : Fault} (h : a.check = .error e) :
    e.IsEarly := by
  have hid : ∀ field value e, checkId field value = .error e → e.IsEarly := by
    intro field value e he
    simp only [checkId] at he
    split at he <;> cases he
    trivial
  refine Fault.of_bind (hid _ _) (fun _ => Fault.of_bind (hid _ _) fun _ =>
    Fault.of_bind (hid _ _) fun _ => Fault.of_bind ?_ fun _ => Fault.of_bind ?_ fun _ => ?_) e h
  · intro e he
    simp only [checkPresence] at he
    repeat' split at he
    all_goals cases he <;> trivial
  · intro e he
    cases hamount : a.amount with
    | none => rw [hamount] at he; cases he
    | some amount =>
      simp only [hamount, checkAmount] at he
      split at he <;> cases he <;> trivial
  · intro e he
    cases hcurrency : a.currency with
    | none => rw [hcurrency] at he; cases he
    | some currency =>
      simp only [hcurrency, checkCurrency] at he
      split at he <;> cases he
      trivial

/-- A property that has to be a whole number and is none is bad input. -/
theorem Bag.isEarly_of_int? {bag : Bag} {key : String} {e : Fault} (h : bag.int? key = .error e) :
    e.IsEarly := by
  simp only [int?] at h
  repeat' split at h
  all_goals cases h
  trivial

/-- The circumstances of a payment fail only for such a property. -/
theorem PaymentInfo.isEarly_of_ofProperties {account : Option Account} {token : Option String}
    {properties : Bag} {e : Fault} (h : ofProperties account token properties = .error e) :
    e.IsEarly :=
  Fault.of_bind (fun _ => Bag.isEarly_of_int?) (fun _ =>
    Fault.of_bind (fun _ => Bag.isEarly_of_int?) fun _ =>
      Fault.of_bind (fun _ => Bag.isEarly_of_int?) fun _ _ he => by cases he) e h

/-- Payment data that cannot be made has fields that cannot be used, which is no business error. -/
theorem PaymentData.isEarly_of_make {amount : Option Decimal} {currency : Option String}
    {externalKey : String} {info : PaymentInfo} {e : Fault}
    (h : make amount currency externalKey info = .error e) : e.IsEarly := by
  simp only [make, ofParts, Checked.outcome] at h
  split at h <;> cases h
  rfl

/-- No response fails to be recorded for a business reason. -/
theorem ResponseRecord.isBusiness_of_ofResponse {a : Attempt} {response : GatewayResponse}
    {now : Moment} {e : Fault} (h : ofResponse a response now = .error e) :
    e.isBusiness = false := by
  refine Fault.of_bind (P := fun e => e.isBusiness = false) ?_
    (fun _ => Fault.of_bind ?_ fun _ _ he => by cases he) e h
  · intro e he
    cases response <;> cases he
    rfl
  · intro e he
    simp only [recordedMoment] at he
    split at he <;> cases he
    rfl

/-! ## Late faults -/

/-- A text that names no status is no business error. -/
theorem PaymentStatus.isBusiness_of_ofText {s : String} {e : Fault} (h : ofText s = .error e) :
    e.isBusiness = false := by
  simp only [ofText] at h
  split at h <;> cases h
  rfl

/-- Nor is a record that names no technical failure. -/
theorem PaymentStatus.isBusiness_of_ofRecorded {result : Option String} {data : Bag} {e : Fault}
    (h : ofRecorded result data = .error e) : e.isBusiness = false := by
  have hcall : ∀ e, (recordedCallError data).map ofCallError = .error e → e.isBusiness = false := by
    intro e he
    unfold recordedCallError at he
    repeat' split at he
    all_goals cases he
    rfl
  unfold ofRecorded at h
  repeat' split at h
  · exact hcall e h
  · cases h
  · exact hcall e h

/-- No response has a status that is a business error. -/
theorem GatewayResponse.isBusiness_of_status {response : GatewayResponse} {e : Fault}
    (h : response.status = .error e) : e.isBusiness = false := by
  have houtcome : ∀ callError result,
      PaymentStatus.ofOutcome callError result = .error e → e.isBusiness = false := by
    intro callError result he
    unfold PaymentStatus.ofOutcome at he
    split at he <;> cases he
    rfl
  cases response with
  | purchase r => exact houtcome _ _ h
  | modification r =>
    simp only [status] at h
    split at h
    · exact houtcome _ _ h
    · exact PaymentStatus.isBusiness_of_ofRecorded h
  | notification properties => exact PaymentStatus.isBusiness_of_ofRecorded h
  | unrecognised kind =>
    cases h
    rfl

/-- A status among the properties takes the place of another one, and so does its fault. -/
theorem TransactionInfo.isBusiness_of_statusOr {properties : Bag}
    {otherwise : Outcome PaymentStatus} {e : Fault}
    (hother : ∀ e, otherwise = .error e → e.isBusiness = false)
    (h : statusOr properties otherwise = .error e) : e.isBusiness = false := by
  unfold statusOr at h
  split at h
  · exact PaymentStatus.isBusiness_of_ofText h
  · exact hother e h

/-- A record that cannot be told is no business error. -/
theorem TransactionInfo.isBusiness_of_ofRecord {r : ResponseRecord} {e : Fault}
    (h : ofRecord r = .error e) : e.isBusiness = false :=
  Fault.of_bind (P := fun e => e.isBusiness = false)
    (fun _ => isBusiness_of_statusOr fun _ => PaymentStatus.isBusiness_of_ofRecorded)
    (fun _ _ he => by cases he) e h

/-- A response that cannot be told is no business error. -/
theorem TransactionInfo.isBusiness_of_ofResponse {a : Attempt} {response : GatewayResponse}
    {now : Moment} {e : Fault} (h : ofResponse a response now = .error e) :
    e.isBusiness = false := by
  refine Fault.of_bind (P := fun e => e.isBusiness = false)
    (fun _ => isBusiness_of_statusOr fun _ => GatewayResponse.isBusiness_of_status) (fun _ =>
      Fault.of_bind ?_ fun _ => Fault.of_bind ?_ fun _ _ he => by cases he) e h
  · intro e he
    cases response <;> cases he
    rfl
  · intro e he
    cases response <;> cases he
    rfl

namespace Engine

/-! ## Steps -/

/-- A failure of the store is told as such. -/
theorem isEarly_storeFault (operation : String) {e : Fault} (h : e.isBusiness = false) :
    (storeFault operation e).IsEarly := by
  cases e with
  | business e => cases h
  | _ => trivial

/-- A look-up fails only where its unit of work is not opened. -/
theorem blames_readStore {c : Collaborators σ} (hc : c.Ordinary) (query : Store → α) :
    Blames (·.isBusiness = false) (readStore c query) :=
  (blames_consult (hc.opening _)).bind fun _ => blames_look _ _

theorem blames_read {c : Collaborators σ} (hc : c.Ordinary) (operation : String)
    (query : Store → α) : Blames Fault.IsEarly (read c operation query) :=
  (blames_readStore hc query).rephrase fun _ => isEarly_storeFault operation

/-- A change fails where its unit of work is not opened or committed, or by itself. -/
theorem blames_writeStore {c : Collaborators σ} (hc : c.Ordinary)
    {change : Store → Outcome (α × Store)}
    (hchange : ∀ s e, change s = .error e → e.isBusiness = false) :
    Blames (·.isBusiness = false) (writeStore c change) :=
  (blames_consult (hc.opening _)).bind fun _ => blames_look_bind fun s =>
    (blames_ofOutcome (hchange s)).bind fun _ => (blames_consult hc.committing).bind fun _ =>
      (blames_replaceStore _ _).bind fun _ => blames_pure _ _

theorem blames_write {c : Collaborators σ} (hc : c.Ordinary) (operation : String)
    {change : Store → Outcome (α × Store)}
    (hchange : ∀ s e, change s = .error e → e.isBusiness = false) :
    Blames Fault.IsEarly (write c operation change) :=
  (blames_writeStore hc hchange).rephrase fun _ => isEarly_storeFault operation

theorem blames_loadMethod {c : Collaborators σ} (hc : c.Ordinary) (a : Attempt) :
    Blames Fault.IsEarly (loadMethod c a) := by
  unfold loadMethod
  split
  · exact blames_pure _ _
  · exact (blames_read hc _ _).bind fun _ => blames_pure _ _

theorem blames_paymentData {c : Collaborators σ} (hc : c.Ordinary) (a : Attempt)
    (account : Account) (method : PaymentMethod) (properties : Bag) :
    Blames Fault.IsEarly (paymentData c a account method properties) := by
  refine Blames.bind ?_ fun key => Blames.bind ?_ fun info => ?_
  · exact blames_consult fun s e he => .of_isBusiness (hc.externalKey _ _ s e he)
  · exact blames_ofOutcome fun _ => PaymentInfo.isEarly_of_ofProperties
  · exact blames_ofOutcome fun _ => PaymentData.isEarly_of_make

end Engine

end CardPayments
