import CardPayments.Proofs.Bag
import CardPayments.Proofs.Engine.Call
import CardPayments.Proofs.Store

/-!
# The course of a transaction

Whatever the collaborators do, a transaction takes one of six courses: it is refused, answered from
its row, recorded without a call, or calls the gateway once, which then fails, answers in vain, or
answers and is recorded. Each course says when it may be taken, what it leaves behind and how it
ends, so that no later proof has to look into the engine.
-/

namespace CardPayments

variable {σ α : Type}

/-- How an attempt that does not come from the hosted page would be served. -/
def Store.modeFor (s : Store) (a : Attempt) : CallMode :=
  CallMode.route a.kind false
    (CallMode.resumesSecure ((s.latestAuthorization? a.paymentId).map Row.record) a.transactionId)

/-- The gateway reference of the authorization that an attempt acts on. -/
def Store.referenceFor (s : Store) (a : Attempt) : Option String :=
  nonEmpty (((s.latestAuthorization? a.paymentId).map Row.record).bind ResponseRecord.pspReference)

/-- Whether a call is of the operation that serves an attempt. -/
def GatewayCall.Serves (s : Store) (a : Attempt) : GatewayCall → Prop
  | .initial operation .. =>
    s.modeFor a ≠ .modification ∧ operation = Engine.initialOperation (s.modeFor a)
  | .followUp operation _ _ reference _ =>
    s.modeFor a = .modification ∧ operation = Engine.followUpOperation a.kind ∧
      reference.isSome ∧ reference = s.referenceFor a

/-- When a call is due: the attempt does not come from the hosted page, and its transaction has no
row unless a shopper returns from 3-D Secure. -/
structure Due (s : Store) (a : Attempt) (call : GatewayCall) : Prop where
  /-- The attempt is not only to be recorded. -/
  unflagged : a.properties.affirms Property.fromHostedPage = false
  /-- A row of the transaction waits for the shopper. -/
  awaited : ∀ row, s.latestOf? a.transactionId a.kind = some row →
    CallMode.awaitsSecure (s.modeFor a) row.record = true
  /-- The operation fits. -/
  serves : call.Serves s a

/-- How an attempt ends, and the world that it leaves. -/
inductive Course (c : Collaborators σ) (a : Attempt) (w : World σ) :
    Outcome TransactionInfo → World σ → Prop
  /-- It ends before any call, and nothing is recorded. -/
  | refused {e w'} (idle : w.Idle w') (early : c.Ordinary → e.IsEarly) : Course c a w (.error e) w'
  /-- It is answered from the row of the transaction. -/
  | replayed {row w'} (unflagged : a.properties.affirms Property.fromHostedPage = false)
      (known : w.store.latestOf? a.transactionId a.kind = some row) (idle : w.Idle w') :
      Course c a w (TransactionInfo.ofRecord row.record) w'
  /-- It is recorded without a call. -/
  | noted {now record w'} (flagged : a.properties.affirms Property.fromHostedPage = true)
      (made : ResponseRecord.ofResponse a (.notification a.properties) now = .ok record)
      (becomes : w.Becomes (w.store.addResponse record).2 [] w') :
      Course c a w (TransactionInfo.ofRecord record.kept) w'
  /-- The gateway fails. -/
  | failed {call e w'} (due : Due w.store a call) (failure : ∃ s, (c.gateway call s).1 = .error e)
      (becomes : w.Becomes w.store [⟨call, .error e⟩] w') :
      Course c a w (.error (Engine.gatewayFault call e)) w'
  /-- The gateway answers, but the answer is not recorded. -/
  | lost {call response e w'} (due : Due w.store a call)
      (answer : ∃ s, (c.gateway call s).1 = .ok response)
      (late : c.Ordinary → e.isBusiness = true → ∃ status cause,
        response.status = .ok status ∧ e = Engine.lostFault a response status cause)
      (becomes : w.Becomes w.store [⟨call, .ok response⟩] w') : Course c a w (.error e) w'
  /-- The gateway answers, and the answer is recorded. -/
  | recorded {call response now record w'} (due : Due w.store a call)
      (answer : ∃ s, (c.gateway call s).1 = .ok response)
      (made : ResponseRecord.ofResponse a response now = .ok record)
      (becomes : w.Becomes (w.store.addResponse record).2 [⟨call, .ok response⟩] w') :
      Course c a w (TransactionInfo.ofResponse a response now) w'

/-- What the collaborators did before does not change the course. -/
theorem Course.of_idle {c : Collaborators σ} {a : Attempt} {w w₁ w' : World σ}
    {r : Outcome TransactionInfo} (idle : w.Idle w₁) (h : Course c a w₁ r w') :
    Course c a w r w' := by
  cases h with
  | refused idle' early => exact .refused (idle.trans idle') early
  | replayed unflagged known idle' =>
    rw [idle.store] at known
    exact .replayed unflagged known (idle.trans idle')
  | noted flagged made becomes =>
    rw [idle.store] at becomes
    exact .noted flagged made (idle.trans_becomes becomes)
  | failed due failure becomes =>
    rw [idle.store] at due becomes
    exact .failed due failure (idle.trans_becomes becomes)
  | lost due answer late becomes =>
    rw [idle.store] at due becomes
    exact .lost due answer late (idle.trans_becomes becomes)
  | recorded due answer made becomes =>
    rw [idle.store] at due becomes
    exact .recorded due answer made (idle.trans_becomes becomes)

namespace Engine

/-- A change that adds the record of a response adds it, if it is made at all. -/
theorem addResponse_of_change {a : Attempt} {response : GatewayResponse} {now : Moment}
    {s store : Store} {row : Row}
    (h : (do let record ← ResponseRecord.ofResponse a response now; pure (s.addResponse record)) =
      (.ok (row, store) : Outcome (Row × Store))) :
    ∃ record, ResponseRecord.ofResponse a response now = .ok record ∧
      s.addResponse record = (row, store) := by
  rcases hrecord : ResponseRecord.ofResponse a response now with e | record
  · rw [hrecord] at h
    cases h
  · rw [hrecord] at h
    exact ⟨record, rfl, Except.ok.inj h⟩

/-- A fault of such a change is a fault of the record. -/
theorem isBusiness_of_change {a : Attempt} {response : GatewayResponse} {now : Moment}
    (s : Store) (e : Fault)
    (h : (do let record ← ResponseRecord.ofResponse a response now; pure (s.addResponse record)) =
      (.error e : Outcome (Row × Store))) : e.isBusiness = false :=
  Fault.of_bind (P := fun e => e.isBusiness = false)
    (fun _ => ResponseRecord.isBusiness_of_ofResponse) (fun _ _ he => by cases he) e h

/-! ## The courses -/

/-- An answer is recorded and told, or it is lost. -/
theorem recordResponse_cases {c : Collaborators σ} {a : Attempt} {response : GatewayResponse}
    {w w' : World σ} {r : Outcome TransactionInfo}
    (h : recordResponse c a response w = (r, w')) :
    (∃ e, r = .error e ∧ w.Idle w' ∧ (c.Ordinary → e.isBusiness = true → ∃ status cause,
      response.status = .ok status ∧ e = lostFault a response status cause)) ∨
      ∃ now record, ResponseRecord.ofResponse a response now = .ok record ∧
        w.Becomes (w.store.addResponse record).2 [] w' ∧
        r = TransactionInfo.ofResponse a response now := by
  obtain ⟨e, hx, hr⟩ | ⟨now, w₁, hx, h⟩ := bind_cases h
  · obtain ⟨hclock, idle⟩ := consult_eq hx
    refine Or.inl ⟨e, hr, idle, fun hc he => ?_⟩
    rw [hc.clock _ e hclock] at he
    cases he
  have idle := (consult_eq hx).2
  obtain ⟨e, ho, hr⟩ | ⟨status, w₂, ho, h⟩ := bind_cases h
  · obtain ⟨hstatus, rfl⟩ := ofOutcome_eq ho
    refine Or.inl ⟨e, hr, idle, fun _ he => ?_⟩
    rw [GatewayResponse.isBusiness_of_status hstatus] at he
    cases he
  obtain ⟨hstatus, rfl⟩ := ofOutcome_eq ho
  obtain ⟨e, hw, hr⟩ | ⟨row, w₃, hw, h⟩ := bind_cases h
  · rcases rephrase_writeStore_cases hw with ⟨cause, he, idle'⟩ | ⟨_, _, he, _⟩
    · exact Or.inl ⟨e, hr, idle.trans idle', fun _ _ =>
        ⟨status, cause, hstatus, Except.error.inj he⟩⟩
    · cases he
  rcases rephrase_writeStore_cases hw with ⟨_, he, _⟩ | ⟨_, store, _, hchange, becomes⟩
  · cases he
  obtain ⟨record, hrecord, hstore⟩ := addResponse_of_change hchange
  obtain ⟨hr, rfl⟩ := ofOutcome_eq h
  have hadd : store = (w.store.addResponse record).2 := by rw [← idle.store, hstore]
  subst hadd
  exact Or.inr ⟨now, record, hrecord, idle.trans_becomes becomes, hr.symm⟩

/-- The gateway fails or answers, and the call is noted with its answer. -/
theorem callGateway_cases {c : Collaborators σ} {call : GatewayCall} {w w' : World σ}
    {r : Outcome GatewayResponse} (h : callGateway c call w = (r, w')) :
    ∃ answer, (c.gateway call w.outside).1 = answer ∧
      w.Becomes w.store [⟨call, answer⟩] w' ∧
      ((∃ e, answer = .error e ∧ r = .error (gatewayFault call e)) ∨
        ∃ response, answer = .ok response ∧ r = .ok response) := by
  obtain ⟨_, hask, _⟩ | ⟨answer, w₁, hask, h⟩ := bind_cases h
  · cases hask
  obtain ⟨hanswer, idle⟩ := ask_eq hask
  obtain ⟨_, hnote, _⟩ | ⟨_, w₂, hnote, h⟩ := bind_cases h
  · cases hnote
  obtain ⟨-, rfl⟩ := Prod.mk.inj hnote
  have becomes : w.Becomes w.store [⟨call, answer⟩]
      { w₁ with exchanges := w₁.exchanges ++ [⟨call, answer⟩] } :=
    idle.trans_becomes ⟨idle.store, rfl, rfl⟩
  refine ⟨answer, (Except.ok.inj hanswer).symm, ?_⟩
  obtain ⟨e, he, rfl⟩ | ⟨response, hok, rfl⟩ := rephrase_cases h
  · obtain ⟨rfl, rfl⟩ := ofOutcome_eq he
    exact ⟨becomes, Or.inl ⟨e, rfl, rfl⟩⟩
  · obtain ⟨rfl, rfl⟩ := ofOutcome_eq hok
    exact ⟨becomes, Or.inr ⟨response, rfl, rfl⟩⟩

/-- A call that is due fails, is answered in vain, or is answered and recorded. -/
theorem course_of_conclude {c : Collaborators σ} {a : Attempt} {call : GatewayCall}
    {w w' : World σ} {r : Outcome TransactionInfo} (due : Due w.store a call)
    (h : conclude c a call w = (r, w')) : Course c a w r w' := by
  obtain ⟨e, hx, rfl⟩ | ⟨response, w₁, hx, h⟩ := bind_cases h
  · obtain ⟨_, failure, becomes, ⟨cause, rfl, he⟩ | ⟨_, _, he⟩⟩ := callGateway_cases hx
    · obtain rfl := Except.error.inj he
      exact .failed due ⟨_, failure⟩ becomes
    · cases he
  obtain ⟨_, answer, becomes, ⟨_, _, he⟩ | ⟨response', rfl, he⟩⟩ := callGateway_cases hx
  · cases he
  obtain rfl := Except.ok.inj he
  rcases recordResponse_cases h with ⟨e, rfl, idle, late⟩ | ⟨now, record, made, becomes', rfl⟩
  · exact .lost due ⟨_, answer⟩ late (becomes.trans_idle idle)
  · rw [becomes.store] at becomes'
    exact .recorded due ⟨_, answer⟩ made (becomes.trans becomes')

/-- What only looks around before does not change the course. -/
theorem course_of_bind {c : Collaborators σ} {a : Attempt} {x : Engine σ α}
    {f : α → Engine σ TransactionInfo} {w w' : World σ} {r : Outcome TransactionInfo}
    (quiet : Quiet x) (early : c.Ordinary → Blames Fault.IsEarly x)
    (next : ∀ b w₁, x w = (.ok b, w₁) → w.Idle w₁ → f b w₁ = (r, w') → Course c a w₁ r w')
    (h : (x >>= f) w = (r, w')) : Course c a w r w' := by
  have idle := quiet w
  obtain ⟨e, hx, rfl⟩ | ⟨b, w₁, hx, h⟩ := bind_cases h
  · rw [hx] at idle
    exact .refused idle fun hc => early hc w e (by rw [hx])
  · rw [hx] at idle
    exact (next b w₁ hx idle h).of_idle idle

/-- An attempt from the hosted page is recorded without a call. -/
theorem course_of_recordOnly {c : Collaborators σ} {a : Attempt} {w w' : World σ}
    {r : Outcome TransactionInfo}
    (flagged : a.properties.affirms Property.fromHostedPage = true)
    (h : recordOnly c a w = (r, w')) : Course c a w r w' := by
  refine course_of_bind (quiet_consult _)
    (fun hc => blames_consult fun s e he => .of_isBusiness (hc.clock s e he)) ?_ h
  intro now w₁ _ _ h
  obtain ⟨e, hx, rfl⟩ | ⟨row, w₂, hx, h⟩ := bind_cases h
  · rcases rephrase_writeStore_cases hx with ⟨_, _, idle⟩ | ⟨_, _, he, _⟩
    · exact .refused idle fun hc =>
        blames_write hc _ isBusiness_of_change w₁ e (by rw [hx])
    · cases he
  rcases rephrase_writeStore_cases hx with ⟨_, he, _⟩ | ⟨row', store, he, hchange, becomes⟩
  · cases he
  obtain rfl := Except.ok.inj he
  obtain ⟨record, made, hadd⟩ := addResponse_of_change hchange
  obtain ⟨rfl, rfl⟩ := ofOutcome_eq h
  obtain ⟨rfl, rfl⟩ := Prod.mk.inj hadd
  exact .noted flagged made becomes

/-- A call that begins a payment takes its course when it is due. -/
theorem course_of_executeInitial {c : Collaborators σ} {a : Attempt} {w w' : World σ}
    {r : Outcome TransactionInfo}
    (unflagged : a.properties.affirms Property.fromHostedPage = false)
    (awaited : ∀ row, w.store.latestOf? a.transactionId a.kind = some row →
      CallMode.awaitsSecure (w.store.modeFor a) row.record = true)
    (initial : w.store.modeFor a ≠ .modification)
    (h : executeInitial c a (w.store.modeFor a) w = (r, w')) : Course c a w r w' := by
  rw [executeInitial_eq] at h
  refine course_of_bind (quiet_initialCall c a _) (fun hc => blames_initialCall hc a _) ?_ h
  intro call w₁ hcall idle h
  obtain ⟨account, payment, user, split, rfl⟩ := initialCall_ok hcall
  refine course_of_conclude ?_ h
  rw [idle.store]
  exact ⟨unflagged, awaited, initial, rfl⟩

/-- A follow-up is refused without an authorization to act on, and else takes its course. -/
theorem course_of_executeFollowUp {c : Collaborators σ} {a : Attempt} {w w' : World σ}
    {r : Outcome TransactionInfo}
    (unflagged : a.properties.affirms Property.fromHostedPage = false)
    (unknown : w.store.latestOf? a.transactionId a.kind = none)
    (modification : w.store.modeFor a = .modification)
    (h : executeFollowUp c a ((w.store.latestAuthorization? a.paymentId).map Row.record) w =
      (r, w')) : Course c a w r w' := by
  rcases hreference : w.store.referenceFor a with _ | reference
  · rw [executeFollowUp_of_none c a hreference] at h
    obtain ⟨rfl, rfl⟩ := Prod.mk.inj h
    exact .refused (World.Idle.refl w) fun _ => trivial
  · rw [executeFollowUp_eq c a hreference] at h
    refine course_of_bind (quiet_followUpCall c a reference)
      (fun hc => blames_followUpCall hc a reference) ?_ h
    intro call w₁ hcall idle h
    obtain ⟨account, payment, split, rfl⟩ := followUpCall_ok hcall
    refine course_of_conclude ?_ h
    rw [idle.store]
    refine ⟨unflagged, fun row hrow => ?_, modification, rfl, rfl, hreference.symm⟩
    rw [unknown] at hrow
    cases hrow

/-- Every attempt that has been checked takes one of the courses. -/
theorem course_of_carryOut {c : Collaborators σ} {a : Attempt} {w w' : World σ}
    {r : Outcome TransactionInfo} (h : carryOut c a w = (r, w')) : Course c a w r w' := by
  unfold carryOut at h
  split at h
  · rename_i flagged
    exact course_of_recordOnly flagged h
  rename_i flagged
  have unflagged := Bool.eq_false_iff.2 flagged
  refine course_of_bind (quiet_read c _ _) (fun hc => blames_read hc _ _) ?_ h
  intro prior w₁ hprior idle h
  obtain rfl := read_ok hprior
  rw [← idle.store] at h
  -- The mode depends on the store alone, which the look-up has left as it was.
  change executeOrReplay c a _ (w₁.store.modeFor a) w₁ = (r, w') at h
  refine course_of_bind (quiet_read c _ _) (fun hc => blames_read hc _ _) ?_ h
  intro existing w₂ hexisting idle' h
  have hstore := idle'.store
  have hknown := read_ok hexisting
  rw [← hstore] at hknown h
  cases existing with
  | some row =>
    dsimp only at h
    split at h
    · rename_i hawaits
      refine course_of_executeInitial unflagged (fun row' hrow' => ?_) (fun hmode => ?_) h
      · rw [hknown] at hrow'
        obtain rfl := Option.some.inj hrow'
        exact hawaits
      · rw [hmode] at hawaits
        cases hawaits
    · obtain ⟨rfl, rfl⟩ := ofOutcome_eq h
      exact .replayed unflagged hknown (World.Idle.refl w₂)
  | none =>
    dsimp only at h
    split at h
    · rename_i hmode
      exact course_of_executeFollowUp unflagged hknown hmode h
    · rename_i hmode
      refine course_of_executeInitial unflagged (fun row hrow => ?_) hmode h
      rw [hknown] at hrow
      cases hrow

/-- Every attempt takes one of the courses. -/
theorem course_of_process {c : Collaborators σ} {a : Attempt} {w w' : World σ}
    {r : Outcome TransactionInfo} (h : process c a w = (r, w')) : Course c a w r w' :=
  course_of_bind (quiet_ofOutcome _) (fun _ => blames_ofOutcome fun _ => Attempt.isEarly_of_check)
    (fun _ _ _ _ => course_of_carryOut) h

/-! ## Purchases -/

/-- The attempt that is carried out when a purchase has no row to return to. -/
def carried (a : Attempt) : Attempt := if a.kind = .purchase then withCaptureDelay a else a

@[simp] theorem kind_carried (a : Attempt) : (carried a).kind = a.kind := by
  unfold carried
  split <;> rfl

@[simp] theorem transactionId_carried (a : Attempt) :
    (carried a).transactionId = a.transactionId := by
  unfold carried
  split <;> rfl

@[simp] theorem paymentId_carried (a : Attempt) : (carried a).paymentId = a.paymentId := by
  unfold carried
  split <;> rfl

/-- The delay of a capture does not make a purchase come from the hosted page. -/
@[simp] theorem affirms_carried (a : Attempt) :
    (carried a).properties.affirms Property.fromHostedPage =
      a.properties.affirms Property.fromHostedPage := by
  unfold carried
  split
  · exact Bag.affirms_congr (Bag.get?_putNew_of_ne _ (by decide) _)
  · rfl

/-- What is carried out is served as what was asked for. -/
@[simp] theorem modeFor_carried (s : Store) (a : Attempt) :
    s.modeFor (carried a) = s.modeFor a := by
  simp only [Store.modeFor, kind_carried, paymentId_carried, transactionId_carried]

/-- A purchase ends early, returns to the row of its transaction, or is carried out without one. -/
theorem purchase_cases {c : Collaborators σ} {a : Attempt} {w w' : World σ}
    {r : Outcome TransactionInfo} (h : purchase c a w = (r, w')) :
    (∃ e, r = .error e ∧ w.Idle w' ∧ (c.Ordinary → e.IsEarly)) ∨
      (∃ row, (w.store.updateResponse a.transactionId a.properties).1 = some row ∧
        w.Becomes (w.store.updateResponse a.transactionId a.properties).2 [] w' ∧
        r = TransactionInfo.ofRecord row.record) ∨
      ((w.store.updateResponse a.transactionId a.properties).1 = none ∧
        ∃ w₁, w.Idle w₁ ∧ carryOut c (withCaptureDelay a) w₁ = (r, w')) := by
  obtain ⟨e, hx, rfl⟩ | ⟨_, w₁, hx, h⟩ := bind_cases h
  · obtain ⟨hcheck, rfl⟩ := ofOutcome_eq hx
    exact Or.inl ⟨e, rfl, World.Idle.refl w, fun _ => Attempt.isEarly_of_check hcheck⟩
  obtain ⟨-, rfl⟩ := ofOutcome_eq hx
  obtain ⟨e, hw, rfl⟩ | ⟨row, w₂, hw, h⟩ := bind_cases h
  · rcases rephrase_writeStore_cases hw with ⟨_, _, idle⟩ | ⟨_, _, he, _⟩
    · refine Or.inl ⟨e, rfl, idle, fun hc => blames_write hc _ ?_ w e (by rw [hw])⟩
      rintro s e' he'
      cases he'
    · cases he
  rcases rephrase_writeStore_cases hw with ⟨_, he, _⟩ | ⟨row', store, he, hchange, becomes⟩
  · cases he
  obtain rfl := Except.ok.inj he
  have hupdate := Except.ok.inj hchange
  right
  cases row with
  | some row =>
    left
    obtain ⟨rfl, rfl⟩ := ofOutcome_eq h
    rw [hupdate]
    exact ⟨row, rfl, becomes, rfl⟩
  | none =>
    right
    have hstore : store = w.store := Store.eq_of_updateResponse_none hupdate
    rw [hupdate]
    exact ⟨rfl, w₂, World.Becomes.idle (hstore ▸ becomes), h⟩

/-- A submitted attempt returns to the row of its transaction, or takes one of the courses. -/
theorem submit_cases {c : Collaborators σ} {a : Attempt} {w w' : World σ}
    {r : Outcome TransactionInfo} (h : submit c a w = (r, w')) :
    (∃ row, a.kind = .purchase ∧
      (w.store.updateResponse a.transactionId a.properties).1 = some row ∧
      w.Becomes (w.store.updateResponse a.transactionId a.properties).2 [] w' ∧
      r = TransactionInfo.ofRecord row.record) ∨
      Course c (carried a) w r w' := by
  unfold submit at h
  by_cases hkind : a.kind = .purchase
  · have hcarried : carried a = withCaptureDelay a := if_pos hkind
    rw [if_pos hkind] at h
    rw [hcarried]
    obtain ⟨e, rfl, idle, early⟩ | ⟨row, hrow, becomes, hr⟩ | ⟨-, w₁, idle, hx⟩ := purchase_cases h
    · exact Or.inr (.refused idle early)
    · exact Or.inl ⟨row, hkind, hrow, becomes, hr⟩
    · exact Or.inr ((course_of_carryOut hx).of_idle idle)
  · have hcarried : carried a = a := if_neg hkind
    rw [if_neg hkind] at h
    rw [hcarried]
    exact Or.inr (course_of_process h)

end Engine

end CardPayments
