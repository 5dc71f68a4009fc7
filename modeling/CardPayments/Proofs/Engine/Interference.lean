import CardPayments.Proofs.Engine.Course
import CardPayments.Proofs.Engine.Lockstep
import CardPayments.Proofs.Engine.Progress
import CardPayments.Proofs.Engine.Run
import CardPayments.Proofs.Separation

/-!
# Payments do not interfere

Take a transaction from two stores that say the same about its payment and itself. Both runs look up
the same records, make the same call or none, and end in the same way; and what they make of their
stores is the same change, which other payments with other transactions do not notice. So
transactions of two payments that no row pairs come to the same in either order.
-/

namespace CardPayments

variable {σ : Type}

/-- Two worlds out of two others in which the same change of the store and the same call, or none,
has been made. -/
structure World.Together (R : σ → σ → Prop) (paymentId transactionId : String) (s t : Store)
    (k l : List GatewayCall) (change : Store.Change) (made : List GatewayCall)
    (w v : World σ) : Prop where
  /-- The change is one for the payment and the transaction. -/
  isFor : change.IsFor paymentId transactionId
  /-- There is one call at most. -/
  once : made.length ≤ 1
  /-- The change and the call have been made in both worlds. -/
  abreast : World.Abreast R (change.apply transactionId s) (change.apply transactionId t)
    (k ++ made) (l ++ made) w v

namespace Engine

/-- Whether a step comes to the same in two worlds with these stores and calls. -/
def Concurs (R : σ → σ → Prop) (paymentId transactionId : String) (s t : Store)
    (k l : List GatewayCall) (Q : World σ → World σ → Prop) (x : Engine σ TransactionInfo) : Prop :=
  InStep Q x x
    (fun r r' w v => r = r' ∧ ∃ change made,
      World.Together R paymentId transactionId s t k l change made w v)
    (fun w v => ∃ change made, World.Together R paymentId transactionId s t k l change made w v)

section Steps

variable {R : σ → σ → Prop} {s t : Store} {k l : List GatewayCall}
  {paymentId transactionId : String}

/-- So far nothing has come of it. -/
theorem together_of_abreast (w v : World σ) (h : World.Abreast R s t k l w v) :
    ∃ change made, World.Together R paymentId transactionId s t k l change made w v := by
  refine ⟨.nothing, [], trivial, Nat.zero_le 1, ?_⟩
  rw [List.append_nil, List.append_nil]
  exact h

/-- So far a call has come of it. -/
theorem together_of_call {call : GatewayCall} (w v : World σ)
    (h : World.Abreast R s t (k ++ [call]) (l ++ [call]) w v) :
    ∃ change made, World.Together R paymentId transactionId s t k l change made w v :=
  ⟨.nothing, [call], trivial, Nat.le_refl 1, h⟩

theorem concurs_ofOutcome {Q : World σ → World σ → Prop}
    (stop : ∀ w v, Q w v →
      ∃ change made, World.Together R paymentId transactionId s t k l change made w v)
    (x : Outcome TransactionInfo) :
    Concurs R paymentId transactionId s t k l Q (ofOutcome x) :=
  (inStep_ofOutcome stop x).mono fun _ _ _ _ h => ⟨h.1, stop _ _ h.2⟩

variable {c : Collaborators σ} (hc : c.Respects R)
include hc

/-- The same answer is recorded in the same record, and told in the same way. -/
theorem concurs_recordResponse {a : Attempt} (hpayment : a.paymentId = paymentId)
    (htransaction : a.transactionId = transactionId) (response : GatewayResponse)
    {made : List GatewayCall} (once : made.length ≤ 1) :
    Concurs R paymentId transactionId s t k l (World.Abreast R s t (k ++ made) (l ++ made))
      (recordResponse c a response) := by
  have stop : ∀ w v, World.Abreast R s t (k ++ made) (l ++ made) w v →
      ∃ change made, World.Together R paymentId transactionId s t k l change made w v :=
    fun w v h => ⟨.nothing, made, trivial, once, h⟩
  refine (inStep_consult stop hc.clock).bind_eq fun now => ?_
  refine (inStep_ofOutcome stop response.status).bind_eq fun status => ?_
  refine InStep.bind ((inStep_addResponse stop hc (fun _ => id) fun _ => id).rephrase _)
    fun row row' => ?_
  intro w v
  rintro ⟨record, record', hrecord, hrecord', -, -, h⟩
  obtain rfl := Except.ok.inj (hrecord.symm.trans hrecord')
  have hfor := ResponseRecord.for_of_ofResponse hrecord
  exact concurs_ofOutcome (fun w v h => ⟨.add record, made,
    ⟨hfor.payment.trans hpayment, hfor.transaction.trans htransaction⟩, once, h⟩) _ w v h

/-- The same call gets the same answer. -/
theorem concurs_conclude {a : Attempt} (hpayment : a.paymentId = paymentId)
    (htransaction : a.transactionId = transactionId) (call : GatewayCall) :
    Concurs R paymentId transactionId s t k l (World.Abreast R s t k l) (conclude c a call) :=
  (inStep_callGateway hc together_of_call).bind_eq fun response =>
    concurs_recordResponse hc hpayment htransaction response (Nat.le_refl 1)

/-- What is only to be recorded is recorded in the same record, and told in the same way. -/
theorem concurs_recordOnly {a : Attempt} (hpayment : a.paymentId = paymentId)
    (htransaction : a.transactionId = transactionId) :
    Concurs R paymentId transactionId s t k l (World.Abreast R s t k l) (recordOnly c a) := by
  refine (inStep_consult together_of_abreast hc.clock).bind_eq fun now => ?_
  refine InStep.bind
    ((inStep_addResponse together_of_abreast hc (fun _ => id) fun _ => id).rephrase _)
    fun row row' => ?_
  intro w v
  rintro ⟨record, record', hrecord, hrecord', hrow, hrow', h⟩
  obtain rfl := Except.ok.inj (hrecord.symm.trans hrecord')
  have hfor := ResponseRecord.for_of_ofResponse hrecord
  rw [hrow, hrow']
  refine concurs_ofOutcome (fun w v h => ⟨.add record, [],
    ⟨hfor.payment.trans hpayment, hfor.transaction.trans htransaction⟩, Nat.zero_le 1, ?_⟩) _ w v h
  rw [List.append_nil, List.append_nil]
  exact h

section Gathering

variable {E : World σ → World σ → Prop} (stop : ∀ w v, World.Abreast R s t k l w v → E w v)
include stop

/-- The same payment method is found. -/
theorem inStep_loadMethod (methods : s.methods = t.methods) (a : Attempt) :
    InStep (World.Abreast R s t k l) (loadMethod c a) (loadMethod c a)
      (fun m m' w v => m = m' ∧ World.Abreast R s t k l w v) E := by
  unfold loadMethod
  split
  · exact InStep.pure fun w v h => ⟨rfl, h⟩
  · rename_i id _
    refine (inStep_read stop hc _ (·.method? (some id)) (·.method? (some id))).bind
      fun m m' w v => ?_
    rintro ⟨⟨rfl, rfl⟩, h⟩
    refine .ok ⟨?_, h⟩
    unfold Store.method?
    rw [methods]

theorem inStep_paymentData (a : Attempt) (account : Account) (method : PaymentMethod)
    (properties : Bag) :
    InStep (World.Abreast R s t k l) (paymentData c a account method properties)
      (paymentData c a account method properties)
      (fun p p' w v => p = p' ∧ World.Abreast R s t k l w v) E := by
  refine (inStep_consult stop (hc.externalKey _ _)).bind_eq fun key => ?_
  refine (inStep_ofOutcome stop _).bind_eq fun info => ?_
  exact inStep_ofOutcome stop _

/-- The same call is gathered to begin a payment. -/
theorem inStep_initialCall (methods : s.methods = t.methods) (a : Attempt) (mode : CallMode) :
    InStep (World.Abreast R s t k l) (initialCall c a mode) (initialCall c a mode)
      (fun call call' w v => call = call' ∧ World.Abreast R s t k l w v) E := by
  refine (inStep_consult stop (hc.account _)).bind_eq fun account => ?_
  refine (inStep_loadMethod hc stop methods a).bind_eq fun method => ?_
  refine (inStep_paymentData hc stop a account method _).bind_eq fun payment => ?_
  exact InStep.pure fun w v h => ⟨rfl, h⟩

/-- The same call is gathered to act on an authorization. -/
theorem inStep_followUpCall (methods : s.methods = t.methods) (a : Attempt) (reference : String) :
    InStep (World.Abreast R s t k l) (followUpCall c a reference) (followUpCall c a reference)
      (fun call call' w v => call = call' ∧ World.Abreast R s t k l w v) E := by
  refine (inStep_consult stop (hc.account _)).bind_eq fun account => ?_
  refine (inStep_loadMethod hc stop methods a).bind_eq fun method => ?_
  refine (inStep_paymentData hc stop a account method _).bind_eq fun payment => ?_
  exact InStep.pure fun w v h => ⟨rfl, h⟩

end Gathering

/-! ## Transactions -/

variable (same : s.SameAbout paymentId transactionId t) {a : Attempt}
  (hpayment : a.paymentId = paymentId) (htransaction : a.transactionId = transactionId)
include same hpayment htransaction

theorem concurs_executeInitial (mode : CallMode) :
    Concurs R paymentId transactionId s t k l (World.Abreast R s t k l)
      (executeInitial c a mode) := by
  rw [executeInitial_eq]
  exact (inStep_initialCall hc together_of_abreast same.methods a mode).bind_eq fun call =>
    concurs_conclude hc hpayment htransaction call

theorem concurs_executeFollowUp (prior : Option ResponseRecord) :
    Concurs R paymentId transactionId s t k l (World.Abreast R s t k l)
      (executeFollowUp c a prior) := by
  cases hreference : nonEmpty (prior.bind ResponseRecord.pspReference) with
  | none =>
    rw [executeFollowUp_of_none c a hreference]
    exact InStep.throw together_of_abreast
  | some reference =>
    rw [executeFollowUp_eq c a hreference]
    exact (inStep_followUpCall hc together_of_abreast same.methods a reference).bind_eq fun call =>
      concurs_conclude hc hpayment htransaction call

/-- The same record of the transaction is found and replayed, or the same call is made. -/
theorem concurs_executeOrReplay (prior : Option ResponseRecord) (mode : CallMode) :
    Concurs R paymentId transactionId s t k l (World.Abreast R s t k l)
      (executeOrReplay c a prior mode) := by
  refine (inStep_read together_of_abreast hc _ (·.latestOf? a.transactionId a.kind)
    (·.latestOf? a.transactionId a.kind)).bind fun existing existing' w v => ?_
  rintro ⟨⟨rfl, rfl⟩, h⟩
  subst htransaction
  obtain ⟨hs, ht⟩ | ⟨row, row', hs, ht, hrecord⟩ := Store.rows_of_map_eq (same.latestOf? a.kind)
  · rw [hs, ht]
    dsimp only
    by_cases hmode : mode = .modification
    · rw [if_pos hmode]
      exact concurs_executeFollowUp hc same hpayment rfl prior w v h
    · rw [if_neg hmode]
      exact concurs_executeInitial hc same hpayment rfl mode w v h
  · rw [hs, ht]
    dsimp only
    rw [← hrecord]
    by_cases hawaits : CallMode.awaitsSecure mode row.record = true
    · rw [if_pos hawaits]
      exact concurs_executeInitial hc same hpayment rfl mode w v h
    · rw [if_neg hawaits]
      exact concurs_ofOutcome together_of_abreast _ w v h

/-- An attempt that has been checked comes to the same. -/
theorem concurs_carryOut :
    Concurs R paymentId transactionId s t k l (World.Abreast R s t k l) (carryOut c a) := by
  unfold carryOut
  by_cases flagged : a.properties.affirms Property.fromHostedPage = true
  · rw [if_pos flagged]
    exact concurs_recordOnly hc hpayment htransaction
  rw [if_neg flagged]
  refine (inStep_read together_of_abreast hc _ _ _).bind fun prior prior' w v => ?_
  rintro ⟨⟨hprior, hprior'⟩, h⟩
  have hsame : prior' = prior := by
    subst hpayment
    rw [hprior, hprior', same.latestAuthorization?]
  rw [hsame]
  exact concurs_executeOrReplay hc same hpayment htransaction prior _ w v h

theorem concurs_process :
    Concurs R paymentId transactionId s t k l (World.Abreast R s t k l) (process c a) :=
  (inStep_ofOutcome together_of_abreast _).bind_eq fun _ =>
    concurs_carryOut hc same hpayment htransaction

/-- A purchase returns to the same row, or is carried out in the same way. -/
theorem concurs_purchase :
    Concurs R paymentId transactionId s t k l (World.Abreast R s t k l) (purchase c a) := by
  refine (inStep_ofOutcome together_of_abreast _).bind_eq fun _ => ?_
  have returns : ∀ s : Store, (pure (s.updateResponse a.transactionId a.properties) :
      Outcome (Option Row × Store)) = .ok ((s.updateResponse a.transactionId a.properties).1,
        (s.updateResponse a.transactionId a.properties).2) := fun _ => rfl
  refine InStep.bind
    ((inStep_writeStore together_of_abreast hc (returns s) (returns t)).rephrase _)
    fun row row' w v => ?_
  rintro ⟨⟨rfl, rfl⟩, h⟩
  subst htransaction
  obtain ⟨hnone, hnone'⟩ | ⟨row, row', hrow, hrow', hrecord⟩ :=
    Store.rows_of_map_eq (same.fst_updateResponse a.properties)
  · have hs : (s.updateResponse a.transactionId a.properties).2 = s :=
      Store.eq_of_updateResponse_none (Prod.ext hnone rfl)
    have ht : (t.updateResponse a.transactionId a.properties).2 = t :=
      Store.eq_of_updateResponse_none (Prod.ext hnone' rfl)
    rw [hs, ht] at h
    rw [hnone, hnone']
    exact concurs_carryOut hc same (a := withCaptureDelay a) hpayment rfl w v h
  · rw [hrow, hrow']
    dsimp only
    rw [← hrecord]
    refine concurs_ofOutcome (fun w v h => ⟨.lay a.properties, [], trivial, Nat.zero_le 1, ?_⟩)
      _ w v h
    rw [List.append_nil, List.append_nil]
    exact h

/-- An attempt that is submitted, or carried out as it is, comes to the same. -/
theorem concurs_enter : ∀ enter ∈ [submit c a, process c a],
    Concurs R paymentId transactionId s t k l (World.Abreast R s t k l) enter := by
  intro enter henter
  rcases List.mem_cons.1 henter with rfl | henter
  · unfold submit
    by_cases hkind : a.kind = .purchase
    · rw [if_pos hkind]
      exact concurs_purchase hc same hpayment htransaction
    · rw [if_neg hkind]
      exact concurs_process hc same hpayment htransaction
  · obtain rfl := List.mem_singleton.1 henter
    exact concurs_process hc same hpayment htransaction

end Steps

/-- A transaction that is taken from two worlds comes to the same in both. -/
theorem together_of_enter {c : Collaborators σ} {R : σ → σ → Prop} (hc : c.Respects R)
    {a : Attempt} {w v : World σ} (outside : R w.outside v.outside)
    (same : w.store.SameAbout a.paymentId a.transactionId v.store) :
    ∀ enter ∈ [submit c a, process c a], (enter w).1 = (enter v).1 ∧ ∃ change made,
      World.Together R a.paymentId a.transactionId w.store v.store w.calls v.calls change made
        (enter w).2 (enter v).2 := by
  intro enter henter
  have hends := concurs_enter hc same rfl rfl enter henter w v ⟨rfl, rfl, rfl, rfl, outside⟩
  exact hends.same (fun _ _ _ _ h => h) fun _ _ h => h

/-- A transaction makes a change for its payment and itself. -/
theorem exists_change_of_enter (c : Collaborators σ) (a : Attempt) (w : World σ) :
    ∀ enter ∈ [submit c a, process c a], ∃ change : Store.Change,
      change.IsFor a.paymentId a.transactionId ∧
        (enter w).2.store = change.apply a.transactionId w.store := by
  intro enter henter
  obtain ⟨-, change, made, together⟩ := together_of_enter c.respects_eq
    (rfl : w.outside = w.outside) (.refl a.paymentId a.transactionId w.store) enter henter
  exact ⟨change, together.isFor, together.abreast.left⟩

/-- Payments do not interfere.

Take a transaction, submitted or carried out as it is, from two worlds whose stores say the same
about its payment and itself but for the numbers of the rows, and whose collaborators give the same
answers. It ends in the same way; the same call is made in both, or none; the same change is made of
both stores, which adds a response to the payment and the transaction or lays properties over the
latest row of the transaction; and the stores say the same afterwards. Every transaction spares the
rows of other payments with other transactions, the requests of the hosted page and the payment
methods.

So where answers depend on what is asked alone, transactions of two payments that no row pairs end
in the same way in either order, and leave the same records of every payment. -/
theorem payments_do_not_interfere (c : Collaborators σ) :
    (∀ (R : σ → σ → Prop) (a : Attempt) (w v : World σ), c.Respects R →
      R w.outside v.outside → w.store.Numbered → v.store.Numbered →
      w.store.SameAbout a.paymentId a.transactionId v.store →
      ∀ enter ∈ [submit c a, process c a],
        (enter w).1 = (enter v).1 ∧
        (∃ change made, World.Together R a.paymentId a.transactionId w.store v.store
          w.calls v.calls change made (enter w).2 (enter v).2) ∧
        (enter w).2.store.SameAbout a.paymentId a.transactionId (enter v).2.store) ∧
    (∀ (a : Attempt) (w : World σ), w.store.Numbered → ∀ enter ∈ [submit c a, process c a],
      w.store.Spares a.paymentId a.transactionId (enter w).2.store) ∧
    (c.Stateless → ∀ (a b : Attempt) (w : World σ), w.store.Numbered →
      a.paymentId ≠ b.paymentId → a.transactionId ≠ b.transactionId →
      w.store.Apart a.paymentId a.transactionId b.paymentId b.transactionId →
      ∀ first ∈ [submit c a, process c a], ∀ second ∈ [submit c b, process c b],
        (first (second w).2).1 = (first w).1 ∧ (second (first w).2).1 = (second w).1 ∧
        (second (first w).2).2.store.SameByPayment (first (second w).2).2.store) := by
  refine ⟨?_, ?_, ?_⟩
  · intro R a w v hc outside numbered numbered' same enter henter
    obtain ⟨houtcome, change, made, together⟩ := together_of_enter hc outside same enter henter
    refine ⟨houtcome, ⟨change, made, together⟩, ?_⟩
    rw [together.abreast.left, together.abreast.right]
    exact same.apply numbered numbered' change
  · intro a w numbered enter henter
    obtain ⟨change, hfor, hstore⟩ := exists_change_of_enter c a w enter henter
    rw [hstore]
    exact Store.Change.spares numbered hfor
  · intro hc a b w numbered payments transactions apart first hfirst second hsecond
    obtain ⟨_, hfor, hstore⟩ := exists_change_of_enter c a w first hfirst
    obtain ⟨_, hfor', hstore'⟩ := exists_change_of_enter c b w second hsecond
    -- Either transaction finds the same as if the other one had not gone before.
    have same := Store.Change.sameAbout_apply numbered hfor' payments transactions apart
    have same' := Store.Change.sameAbout_apply numbered hfor payments.symm transactions.symm
      apart.symm
    rw [← hstore'] at same
    rw [← hstore] at same'
    obtain ⟨houtcome, change, _, together⟩ := together_of_enter hc trivial same first hfirst
    obtain ⟨houtcome', change', _, together'⟩ := together_of_enter hc trivial same' second hsecond
    refine ⟨houtcome.symm, houtcome'.symm, ?_⟩
    have hleft := together'.abreast.right
    have hright := together.abreast.right
    rw [together.abreast.left] at hleft
    rw [together'.abreast.left] at hright
    rw [hleft, hright]
    exact Store.Change.comm numbered together.isFor together'.isFor payments transactions

/-- A capture finds its authorization behind a row of another payment, and may be made before or
after a refund of that one. -/
theorem payments_do_not_interfere_capture :
    let c := Collaborators.steady ⟨63850161600000000, some 0⟩
      (.ok (.modification { accepted := true, response := some "[capture-received]" }))
    let authorized (paymentId transactionId : String) : ResponseRecord :=
      { accountId := "acc", paymentId, transactionId, kind := .authorize
        amount := none, currency := none, pspResult := some PspResult.authorised.code
        pspReference := some "ref" }
    let a : Attempt :=
      ⟨"acc", "pay", "tx", none, .capture, some (.finite false 1000 (-2)), some "EUR", []⟩
    let b : Attempt := { a with paymentId := "other", transactionId := "ty", kind := .refund }
    let w : World Unit := { store := { rows := [⟨1, authorized "pay" "t1"⟩] }, outside := () }
    let v : World Unit := { store := { rows := [⟨1, authorized "other" "t2"⟩,
      ⟨2, authorized "pay" "t1"⟩] }, outside := () }
    (submit c a w).1 = (submit c a v).1 ∧
      (submit c a v).2.calls.map GatewayCall.operation = [FollowUpOperation.capture.name] ∧
      v.store.Spares "pay" "tx" (submit c a v).2.store ∧
      (submit c b (submit c a v).2).2.store.SameByPayment
        (submit c a (submit c b v).2).2.store := by
  intro c authorized a b w v
  have stateless : c.Stateless := Collaborators.stateless_steady _ _
  have numbered : w.store.Numbered := List.pairwise_singleton _ _
  have numbered' : v.store.Numbered := by decide
  obtain ⟨htwo, hspares, horder⟩ := payments_do_not_interfere c
  obtain ⟨houtcome, -, -⟩ := htwo (fun _ _ => True) a w v stateless trivial numbered numbered'
    ⟨rfl, rfl⟩ (submit c a) List.mem_cons_self
  have hcall : (submit c a v).2.calls.map GatewayCall.operation =
      [FollowUpOperation.capture.name] := by decide +kernel
  obtain ⟨-, -, hsame⟩ := horder stateless a b v numbered' (by decide) (by decide) (by decide)
    (submit c a) List.mem_cons_self (submit c b) List.mem_cons_self
  exact ⟨houtcome, hcall, hspares a v numbered' (submit c a) List.mem_cons_self, hsame⟩

end Engine

end CardPayments
