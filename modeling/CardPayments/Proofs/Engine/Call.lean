import CardPayments.Proofs.Engine.Blame

/-!
# What is asked of the gateway

Before a transaction calls the gateway it gathers what the call has to say. Gathering changes
nothing and settles the operation; only then is the call made and the answer recorded.
-/

namespace CardPayments.Engine

variable {σ : Type}

/-- The call that begins a payment. -/
def initialCall (c : Collaborators σ) (a : Attempt) (mode : CallMode) : Engine σ GatewayCall := do
  let account ← consult (c.account a.accountId)
  let method ← loadMethod c a
  let properties := Bag.merge [method.properties, a.properties]
  let payment ← paymentData c a account method properties
  pure (.initial (initialOperation mode)
    (some (c.settings.merchantAccountFor payment.info.country properties)) payment
    (UserData.ofProperties (some account) properties) (SplitSettlement.ofProperties properties))

/-- The call that acts on an earlier authorization. -/
def followUpCall (c : Collaborators σ) (a : Attempt) (reference : String) :
    Engine σ GatewayCall := do
  let account ← consult (c.account a.accountId)
  let method ← loadMethod c a
  let payment ← paymentData c a account method a.properties
  pure (.followUp (followUpOperation a.kind)
    (some (c.settings.merchantAccountFor payment.info.country a.properties)) payment
    (some reference) (SplitSettlement.ofProperties a.properties))

/-- Makes a call and records the answer. -/
def conclude (c : Collaborators σ) (a : Attempt) (call : GatewayCall) :
    Engine σ TransactionInfo := do
  let response ← callGateway c call
  recordResponse c a response

/-- A transaction that begins a payment first gathers its call. -/
theorem executeInitial_eq (c : Collaborators σ) (a : Attempt) (mode : CallMode) :
    executeInitial c a mode = initialCall c a mode >>= conclude c a := by
  simp only [executeInitial, initialCall, conclude, bind_assoc, pure_bind]

/-- A follow-up first gathers its call. -/
theorem executeFollowUp_eq (c : Collaborators σ) (a : Attempt) {prior : Option ResponseRecord}
    {reference : String} (h : nonEmpty (prior.bind ResponseRecord.pspReference) = some reference) :
    executeFollowUp c a prior = followUpCall c a reference >>= conclude c a := by
  simp only [executeFollowUp, h, followUpCall, conclude, bind_assoc, pure_bind]

/-- Without a reference to act on, a follow-up is refused at once. -/
theorem executeFollowUp_of_none (c : Collaborators σ) (a : Attempt) {prior : Option ResponseRecord}
    (h : nonEmpty (prior.bind ResponseRecord.pspReference) = none) :
    executeFollowUp c a prior =
      throw (.business (.missingAuthorization a.paymentId a.transactionId)) := by
  simp only [executeFollowUp, h]

theorem quiet_loadMethod (c : Collaborators σ) (a : Attempt) : Quiet (loadMethod c a) := by
  unfold loadMethod
  split
  · exact quiet_pure _
  · exact (quiet_read c _ _).bind fun _ => quiet_pure _

theorem quiet_paymentData (c : Collaborators σ) (a : Attempt) (account : Account)
    (method : PaymentMethod) (properties : Bag) :
    Quiet (paymentData c a account method properties) :=
  (quiet_consult _).bind fun _ => (quiet_ofOutcome _).bind fun _ => quiet_ofOutcome _

theorem quiet_initialCall (c : Collaborators σ) (a : Attempt) (mode : CallMode) :
    Quiet (initialCall c a mode) :=
  (quiet_consult _).bind fun _ => (quiet_loadMethod c a).bind fun _ =>
    (quiet_paymentData c a _ _ _).bind fun _ => quiet_pure _

theorem quiet_followUpCall (c : Collaborators σ) (a : Attempt) (reference : String) :
    Quiet (followUpCall c a reference) :=
  (quiet_consult _).bind fun _ => (quiet_loadMethod c a).bind fun _ =>
    (quiet_paymentData c a _ _ _).bind fun _ => quiet_pure _

theorem blames_initialCall {c : Collaborators σ} (hc : c.Ordinary) (a : Attempt)
    (mode : CallMode) : Blames Fault.IsEarly (initialCall c a mode) := by
  refine Blames.bind ?_ fun account => (blames_loadMethod hc a).bind fun method =>
    (blames_paymentData hc a _ _ _).bind fun payment => blames_pure _ _
  exact blames_consult fun s e he => .of_isBusiness (hc.account _ s e he)

theorem blames_followUpCall {c : Collaborators σ} (hc : c.Ordinary) (a : Attempt)
    (reference : String) : Blames Fault.IsEarly (followUpCall c a reference) := by
  refine Blames.bind ?_ fun account => (blames_loadMethod hc a).bind fun method =>
    (blames_paymentData hc a _ _ _).bind fun payment => blames_pure _ _
  exact blames_consult fun s e he => .of_isBusiness (hc.account _ s e he)

/-- The call that begins a payment is of the operation that its mode stands for. -/
theorem initialCall_ok {c : Collaborators σ} {a : Attempt} {mode : CallMode} {w w' : World σ}
    {call : GatewayCall} (h : initialCall c a mode w = (.ok call, w')) :
    ∃ account payment user split,
      call = .initial (initialOperation mode) account payment user split := by
  obtain ⟨account, w₁, -, h⟩ := exists_of_bind_ok h
  obtain ⟨method, w₂, -, h⟩ := exists_of_bind_ok h
  obtain ⟨payment, w₃, -, h⟩ := exists_of_bind_ok h
  obtain ⟨hcall, -⟩ := Prod.mk.inj h
  exact ⟨_, _, _, _, (Except.ok.inj hcall).symm⟩

/-- A follow-up call is of the operation that its kind stands for, and acts on the reference. -/
theorem followUpCall_ok {c : Collaborators σ} {a : Attempt} {reference : String} {w w' : World σ}
    {call : GatewayCall} (h : followUpCall c a reference w = (.ok call, w')) :
    ∃ account payment split,
      call = .followUp (followUpOperation a.kind) account payment (some reference) split := by
  obtain ⟨account, w₁, -, h⟩ := exists_of_bind_ok h
  obtain ⟨method, w₂, -, h⟩ := exists_of_bind_ok h
  obtain ⟨payment, w₃, -, h⟩ := exists_of_bind_ok h
  obtain ⟨hcall, -⟩ := Prod.mk.inj h
  exact ⟨_, _, _, (Except.ok.inj hcall).symm⟩

end CardPayments.Engine
