import CardPayments.Proofs.Acceptance
import CardPayments.Proofs.Engine.Lockstep
import CardPayments.Proofs.Engine.Reentry
import CardPayments.Proofs.Precedence

/-!
# Nulls among the properties of a call

An attempt that begins a payment is served as it would be without the nulls among its properties,
as long as no null hides a value of the stored payment method, nor the delay of a purchase: the same
is asked of the gateway, and an attempt that fails does so in the same fault.
-/

namespace CardPayments

variable {σ α β : Type}

/-- An attempt without the nulls among its properties. -/
def Attempt.withoutNulls (a : Attempt) : Attempt :=
  { a with properties := a.properties.withoutNulls }

/-! ## What is recorded of nulls -/

namespace PaymentStatus

/-- A technical failure is recorded alike with nulls and without them. -/
theorem recordedCallError_withoutNulls {data : Bag} (h : data.Distinct) :
    recordedCallError data.withoutNulls = recordedCallError data := by
  unfold recordedCallError
  rw [Bag.get?_withoutNulls h]
  cases data.get? Property.callErrorStatus with
  | none => rfl
  | some v => cases v <;> rfl

theorem ofRecorded_withoutNulls (result : Option String) {data : Bag} (h : data.Distinct) :
    ofRecorded result data.withoutNulls = ofRecorded result data := by
  simp only [ofRecorded, recordedCallError_withoutNulls h]

end PaymentStatus

/-- Whether two outcomes are the same fault, if one of them is a fault. -/
def Outcome.FailAlike (x : Outcome α) (y : Outcome β) : Prop :=
  ∀ e, x = .error e ↔ y = .error e

theorem Outcome.failAlike_ok (a : α) (b : β) : FailAlike (.ok a) (.ok b) :=
  fun _ => ⟨nofun, nofun⟩

theorem Outcome.failAlike_error (e : Fault) :
    FailAlike (.error e : Outcome α) (.error e : Outcome β) := by
  intro e'
  rw [Except.error.injEq, Except.error.injEq]

theorem Outcome.failAlike_bind {γ : Type} (x : Outcome α) {f : α → Outcome β} {g : α → Outcome γ}
    (h : ∀ a, FailAlike (f a) (g a)) : FailAlike (x >>= f) (x >>= g) := by
  cases x with
  | error e => exact failAlike_error e
  | ok a => exact h a

/-- What is recorded of a notification fails alike with nulls and without them. -/
theorem ResponseRecord.failAlike_withoutNulls (a : Attempt) (now : Moment) :
    Outcome.FailAlike
      (ofResponse a.withoutNulls (.notification a.withoutNulls.properties) now)
      (ofResponse a (.notification a.properties) now) :=
  Outcome.failAlike_bind (recordedMoment now) fun _ => Outcome.failAlike_ok _ _

/-- A notification is recorded with its properties and its result. -/
theorem ResponseRecord.of_notification {a : Attempt} {properties : Bag} {now : Moment}
    {record : ResponseRecord} (h : ofResponse a (.notification properties) now = .ok record) :
    record.additionalData = properties ∧
      record.pspResult = properties.text? Property.pspResult := by
  obtain ⟨filled, hfilled, hrest⟩ := Outcome.exists_of_bind_ok h
  obtain ⟨moment, -, hrecord⟩ := Outcome.exists_of_bind_ok hrest
  cases hfilled
  cases hrecord
  exact ⟨rfl, rfl⟩

/-- So does what is told of the record. -/
theorem TransactionInfo.failAlike_withoutNulls {properties : Bag} (h : properties.Distinct)
    {a b : Attempt} {now : Moment} {record record' : ResponseRecord}
    (hrecord' : ResponseRecord.ofResponse a (.notification properties.withoutNulls) now =
      .ok record')
    (hrecord : ResponseRecord.ofResponse b (.notification properties) now = .ok record) :
    Outcome.FailAlike (ofRecord record'.kept) (ofRecord record.kept) := by
  obtain ⟨hdata', hresult'⟩ := ResponseRecord.of_notification hrecord'
  obtain ⟨hdata, hresult⟩ := ResponseRecord.of_notification hrecord
  have hstored : properties.storable.Distinct := Bag.distinct_storable h
  have hstatus : statusOr record'.kept.additionalData
      (PaymentStatus.ofRecorded record'.kept.pspResult record'.kept.additionalData) =
      statusOr record.kept.additionalData
        (PaymentStatus.ofRecorded record.kept.pspResult record.kept.additionalData) := by
    simp only [ResponseRecord.kept, hdata, hdata', hresult, hresult', statusOr,
      Bag.storable_withoutNulls, Bag.text?_withoutNulls hstored, Bag.text?_withoutNulls h,
      PaymentStatus.ofRecorded_withoutNulls _ hstored]
  unfold ofRecord
  rw [hstatus]
  exact Outcome.failAlike_bind _ fun _ => Outcome.failAlike_ok _ _

namespace Engine

/-! ## Runs that end alike -/

/-- Whether two runs have made the same calls, and end in the same fault if one of them ends in a
fault. -/
structure Alike (p : Outcome α × World σ) (q : Outcome β × World σ) : Prop where
  /-- The calls. -/
  calls : p.2.calls = q.2.calls
  /-- The fault. -/
  fault : Outcome.FailAlike p.1 q.1

theorem Alike.refl (p : Outcome α × World σ) : Alike p p := ⟨rfl, fun _ => Iff.rfl⟩

/-- After the same first half two runs end alike if what follows does. -/
theorem Alike.bind {γ : Type} {x y : Engine σ α} {f : α → Engine σ β} {g : α → Engine σ γ}
    {w : World σ} (hxy : x w = y w)
    (hfg : ∀ a w₁, y w = (.ok a, w₁) → Alike (f a w₁) (g a w₁)) :
    Alike ((x >>= f) w) ((y >>= g) w) := by
  rcases hy : y w with ⟨e | a, w₁⟩
  · rw [bind_error f (hxy.trans hy), bind_error g hy]
    exact ⟨rfl, Outcome.failAlike_error e⟩
  · rw [bind_ok f (hxy.trans hy), bind_ok g hy]
    exact hfg a w₁ hy

/-- After the same first half two runs are the same if what follows is. -/
theorem bind_congr {x y : Engine σ α} {f g : α → Engine σ β} {w : World σ} (hxy : x w = y w)
    (hfg : ∀ a w₁, y w = (.ok a, w₁) → f a w₁ = g a w₁) : (x >>= f) w = (y >>= g) w := by
  rcases hy : y w with ⟨e | a, w₁⟩
  · rw [bind_error f (hxy.trans hy), bind_error g hy]
  · rw [bind_ok f (hxy.trans hy), bind_ok g hy]
    exact hfg a w₁ hy

/-- The payment method of an attempt is the one in the store. -/
theorem loadMethod_ok {c : Collaborators σ} {a : Attempt} {w w' : World σ} {method : PaymentMethod}
    (h : loadMethod c a w = (.ok method, w')) : method = w.store.methodFor a := by
  unfold loadMethod at h
  unfold Store.methodFor
  cases hid : nonEmpty a.paymentMethodId with
  | none =>
    rw [hid] at h
    cases h
    rfl
  | some id =>
    rw [hid] at h
    obtain ⟨found, w₁, hread, hpure⟩ := exists_of_bind_ok h
    obtain rfl := read_ok hread
    cases hpure
    rfl

/-! ## Attempts that begin a payment -/

section Initial

variable {c : Collaborators σ} {a : Attempt} {w : World σ}
  (h : (w.store.methodFor a).Transparent a.properties)
include h

/-- The same call is gathered without the nulls. -/
theorem initialCall_withoutNulls (mode : CallMode) :
    initialCall c a.withoutNulls mode w = initialCall c a mode w := by
  refine bind_congr rfl fun account w₁ haccount => ?_
  refine bind_congr rfl fun method w₂ hmethod => ?_
  obtain rfl : method = w.store.methodFor a := by
    rw [loadMethod_ok hmethod, (consult_eq haccount).2.store]
  have hpayment : paymentData c a.withoutNulls account (w.store.methodFor a)
      ((w.store.methodFor a).propertiesUnder a.properties.withoutNulls) =
      paymentData c a account (w.store.methodFor a)
        ((w.store.methodFor a).propertiesUnder a.properties) := by
    unfold paymentData
    rw [PaymentInfo.ofProperties_withoutNulls h]
    rfl
  refine bind_congr (congrFun hpayment w₂) fun payment w₃ _ => ?_
  have haccount' :=
    GatewaySettings.merchantAccountFor_withoutNulls h c.settings payment.info.country
  have huser := UserData.ofProperties_withoutNulls h (some account)
  have hsplit := SplitSettlement.ofProperties_withoutNulls h
  change (pure (GatewayCall.initial _ (some (c.settings.merchantAccountFor payment.info.country
      ((w.store.methodFor a).propertiesUnder a.properties.withoutNulls))) payment
    (UserData.ofProperties (some account)
      ((w.store.methodFor a).propertiesUnder a.properties.withoutNulls))
    (SplitSettlement.ofProperties
      ((w.store.methodFor a).propertiesUnder a.properties.withoutNulls))) : Engine σ _) w₃ = _
  rw [haccount', huser, hsplit]
  rfl

/-- It is made and answered, and the answer is recorded and told, as it would be with them. -/
theorem executeInitial_withoutNulls (mode : CallMode) :
    executeInitial c a.withoutNulls mode w = executeInitial c a mode w := by
  rw [executeInitial_eq, executeInitial_eq]
  exact bind_congr (initialCall_withoutNulls h mode) fun call w₁ _ => rfl

theorem executeOrReplay_withoutNulls (prior : Option ResponseRecord) {mode : CallMode}
    (hmode : mode ≠ .modification) :
    executeOrReplay c a.withoutNulls prior mode w = executeOrReplay c a prior mode w := by
  refine bind_congr rfl fun existing w₁ hexisting => ?_
  have hstore := quiet_read c "get_transaction_response" (·.latestOf? a.transactionId a.kind) w
  rw [hexisting] at hstore
  have h₁ : (w₁.store.methodFor a).Transparent a.properties := by
    rw [hstore.store]
    exact h
  cases existing with
  | some row =>
    simp only
    split
    · exact executeInitial_withoutNulls h₁ mode
    · rfl
  | none =>
    simp only [if_neg hmode]
    exact executeInitial_withoutNulls h₁ mode

end Initial

/-! ## Attempts from the hosted page -/

/-- Steps that go on in step from equal calls end alike. -/
theorem Alike.of_inStep {Q : World σ → World σ → Prop} {x : Engine σ α} {y : Engine σ β}
    (h : InStep Q x y (fun _ _ w v => w.calls = v.calls) (fun w v => w.calls = v.calls))
    {w v : World σ} (hwv : Q w v) : Alike (x w) (y v) := by
  have hends := h w v hwv
  cases hx : x w with
  | mk r w₁ =>
    cases hy : y v with
    | mk r' v₁ =>
      rw [hx, hy] at hends
      cases hends with
      | ok together => exact ⟨together, Outcome.failAlike_ok _ _⟩
      | error stopped => exact ⟨stopped, Outcome.failAlike_error _⟩

/-- What fails alike ends in step. -/
theorem inStep_of_failAlike {Q : World σ → World σ → Prop} {x : Outcome α} {y : Outcome β}
    (h : Outcome.FailAlike x y) {E : World σ → World σ → Prop} (hQ : ∀ w v, Q w v → E w v) :
    InStep Q (ofOutcome x) (ofOutcome y) (fun _ _ w v => E w v) E := by
  intro w v hwv
  cases x with
  | ok a =>
    cases y with
    | ok b => exact .ok (hQ w v hwv)
    | error e => cases (h e).2 rfl
  | error e =>
    obtain rfl := (h e).1 rfl
    exact .error (hQ w v hwv)

/-- Worlds with the same calls have made the same calls. -/
theorem calls_eq_of_abreast {R : σ → σ → Prop} {s t : Store} {k : List GatewayCall}
    (w v : World σ) (h : World.Abreast R s t k k w v) : w.calls = v.calls :=
  h.calls_left.trans h.calls_right.symm

/-- What is only to be recorded is recorded without a call, and fails alike without the nulls. -/
theorem alike_recordOnly (c : Collaborators σ) {a : Attempt} (h : a.properties.Distinct)
    (w : World σ) : Alike (recordOnly c a.withoutNulls w) (recordOnly c a w) := by
  refine Alike.of_inStep (Q := World.Abreast Eq w.store w.store w.calls w.calls) ?_
    ⟨rfl, rfl, rfl, rfl, rfl⟩
  refine (inStep_consult calls_eq_of_abreast c.respects_eq.clock).bind_eq fun now => ?_
  have hfail := ResponseRecord.failAlike_withoutNulls a now
  refine InStep.bind ((inStep_addResponse calls_eq_of_abreast c.respects_eq (fun e => (hfail e).1)
    fun e => (hfail e).2).rephrase _) fun row row' => ?_
  rintro u v ⟨record', record, hrecord', hrecord, hrow', hrow, huv⟩
  rw [hrow, hrow']
  exact inStep_of_failAlike (TransactionInfo.failAlike_withoutNulls h hrecord' hrecord)
    calls_eq_of_abreast u v huv

/-! ## All attempts that begin a payment -/

/-- What begins a payment modifies none. -/
theorem route_ne_modification {kind : TransactionType} (initial : kind.isInitial = true)
    (secure : Bool) : CallMode.route kind false secure ≠ .modification := by
  cases kind <;> cases secure <;> first | decide | cases initial

/-- An attempt that has been checked is carried out alike without the nulls. -/
theorem alike_carryOut {c : Collaborators σ} {a : Attempt} {w : World σ}
    (initial : a.kind.isInitial = true)
    (h : (w.store.methodFor a).Transparent a.properties) :
    Alike (carryOut c a.withoutNulls w) (carryOut c a w) := by
  have hflag : a.withoutNulls.properties.affirms Property.fromHostedPage =
      a.properties.affirms Property.fromHostedPage := Bag.affirms_withoutNulls h.given _
  unfold carryOut
  rw [hflag]
  split
  · exact alike_recordOnly c h.given w
  · refine Alike.bind rfl fun prior w₁ hprior => ?_
    have hstore := quiet_read c "get_successful_authorization_response"
      (fun s => (s.latestAuthorization? a.paymentId).map Row.record) w
    rw [hprior] at hstore
    have h₁ : (w₁.store.methodFor a).Transparent a.properties := by
      rw [hstore.store]
      exact h
    have hsame := executeOrReplay_withoutNulls (c := c) h₁ prior
      (route_ne_modification initial (CallMode.resumesSecure prior a.transactionId))
    exact hsame ▸ Alike.refl _

/-- A purchase that captures at once unless its properties give a delay is one without nulls if it
is so with them, where the delay is not among the nulls. -/
theorem withCaptureDelay_withoutNulls {a : Attempt} (h : a.properties.Distinct)
    (hdelay : a.properties.get? Property.captureDelayHours ≠ some .null) :
    withCaptureDelay a.withoutNulls = (withCaptureDelay a).withoutNulls := by
  unfold withCaptureDelay Attempt.withoutNulls
  rw [Bag.withoutNulls_putNew h hdelay rfl]

/-- The delay that a purchase is given hides nothing, either. -/
theorem transparent_withCaptureDelay {method : PaymentMethod} {a : Attempt}
    (h : method.Transparent a.properties) :
    method.Transparent (withCaptureDelay a).properties := by
  refine ⟨h.stored, Bag.distinct_putNew h.given _ _, fun entry hentry hnull => ?_⟩
  unfold withCaptureDelay Bag.putNew at hentry
  simp only at hentry
  split at hentry
  · exact h.unhidden entry hentry hnull
  · rcases Bag.mem_put hentry with rfl | ⟨hold, -⟩
    · cases hnull
    · exact h.unhidden entry hold hnull

/-- What is carried out hides nothing that is not hidden by what was asked for. -/
theorem transparent_carried {method : PaymentMethod} {a : Attempt}
    (h : method.Transparent a.properties) : method.Transparent (carried a).properties := by
  unfold carried
  split
  · exact transparent_withCaptureDelay h
  · exact h

/-- Changes that do the same to a store are made in the same way. -/
theorem write_congr (c : Collaborators σ) (operation : String)
    {change change' : Store → Outcome (α × Store)} {w : World σ}
    (h : change w.store = change' w.store) :
    write c operation change w = write c operation change' w := by
  have hwrite : writeStore c change w = writeStore c change' w := by
    refine bind_congr rfl fun _ w₁ hopen => ?_
    have hstore := (consult_eq hopen).2.store
    refine (bind_ok _ (rfl : look change w₁ = _)).trans
      (Eq.trans ?_ (bind_ok _ (rfl : look change' w₁ = _)).symm)
    rw [hstore, h]
  unfold write rephrase
  simp only [ExceptT.mk, hwrite]

/-- A purchase without a row of its transaction is carried out alike without the nulls. -/
theorem alike_purchase (c : Collaborators σ) {a : Attempt} {w : World σ}
    (purchase : a.kind = .purchase)
    (fresh : ∀ r ∈ w.store.rows, r.record.transactionId ≠ a.transactionId)
    (h : (w.store.methodFor a).Transparent a.properties)
    (hdelay : a.properties.get? Property.captureDelayHours ≠ some .null) :
    Alike (Engine.purchase c a.withoutNulls w) (Engine.purchase c a w) := by
  have hunknown (properties : Bag) :
      w.store.updateResponse a.transactionId properties = (none, w.store) :=
    Store.updateResponse_of_unknown properties fresh
  refine Alike.bind rfl fun _ w₁ hcheck => ?_
  obtain ⟨-, rfl⟩ := ofOutcome_eq hcheck
  refine Alike.bind (write_congr c _ ?_) fun row w₂ hwrite => ?_
  · change pure (w.store.updateResponse a.transactionId a.properties.withoutNulls) =
      pure (w.store.updateResponse a.transactionId a.properties)
    rw [hunknown, hunknown]
  · obtain ⟨_, he, -⟩ | ⟨row', store, -, hchange, becomes⟩ := rephrase_writeStore_cases hwrite
    · cases he
    · have hstore : store = w.store := by
        have hpair := Except.ok.inj hchange
        rw [hunknown] at hpair
        exact (Prod.mk.inj hpair).2.symm
      cases row with
      | some row => exact Alike.refl _
      | none =>
        simp only
        rw [withCaptureDelay_withoutNulls h.given hdelay]
        refine alike_carryOut (a := withCaptureDelay a) ?_ ?_
        · change a.kind.isInitial = true
          rw [purchase]
          rfl
        · rw [becomes.store, hstore]
          exact transparent_withCaptureDelay h

/-- An attempt that begins a payment is served alike without the nulls. -/
theorem alike_submit (c : Collaborators σ) {a : Attempt} {w : World σ}
    (initial : a.kind.isInitial = true)
    (fresh : ∀ r ∈ w.store.rows, r.record.transactionId ≠ a.transactionId)
    (h : (w.store.methodFor a).Transparent a.properties)
    (hdelay : a.kind = .purchase →
      a.properties.get? Property.captureDelayHours ≠ some .null) :
    Alike (submit c a.withoutNulls w) (submit c a w) := by
  unfold submit
  by_cases hkind : a.kind = .purchase
  · have hkind' : a.withoutNulls.kind = .purchase := hkind
    rw [if_pos hkind, if_pos hkind']
    exact alike_purchase c hkind fresh h (hdelay hkind)
  · have hkind' : ¬ a.withoutNulls.kind = .purchase := hkind
    rw [if_neg hkind, if_neg hkind']
    refine Alike.bind rfl fun _ w₁ hcheck => ?_
    obtain ⟨-, rfl⟩ := ofOutcome_eq hcheck
    exact alike_carryOut initial h

/-! ## What is told -/

/-- The call that begins a payment tells what is preferred. -/
theorem preferred_of_initialCall {c : Collaborators σ} {a : Attempt} {mode : CallMode}
    {w w' : World σ} {call : GatewayCall} (hcall : initialCall c a mode w = (.ok call, w'))
    (h : (w.store.methodFor a).Transparent a.properties) :
    ∃ account merchantAccount payment user split,
      (∃ s, (c.account a.accountId s).1 = .ok account) ∧
        call = .initial (initialOperation mode) merchantAccount payment user split ∧
        Preferred c.settings account (w.store.methodFor a) a.properties merchantAccount
          payment.info user split := by
  obtain ⟨account, w₁, haccount, hrest⟩ := exists_of_bind_ok hcall
  obtain ⟨method, w₂, hmethod, hrest⟩ := exists_of_bind_ok hrest
  obtain ⟨payment, w₃, hpayment, hpure⟩ := exists_of_bind_ok hrest
  obtain rfl : method = w.store.methodFor a := by
    rw [loadMethod_ok hmethod, (consult_eq haccount).2.store]
  obtain ⟨key, w₄, -, hrest⟩ := exists_of_bind_ok hpayment
  obtain ⟨info, w₅, hinfo, hmake⟩ := exists_of_bind_ok hrest
  have hmade := (PaymentData.make_eq_ok_iff.1 (ofOutcome_eq hmake).1).2.2
  have hpreferred := Preferred.of_ofProperties h c.settings (ofOutcome_eq hinfo).1
  subst hmade
  cases hpure
  exact ⟨account, _, _, _, _, ⟨_, (consult_eq haccount).1⟩, rfl, hpreferred⟩

/-- Whether a step makes no call, or the one that is gathered to begin a payment. -/
def Begins (c : Collaborators σ) (a : Attempt) (w w' : World σ) : Prop :=
  w'.calls = w.calls ∨ ∃ mode call w₁ w₂, w₁.store = w.store ∧
    initialCall c a mode w₁ = (.ok call, w₂) ∧ w'.calls = w.calls ++ [call]

theorem Begins.of_idle {c : Collaborators σ} {a : Attempt} {u v : World σ} (h : u.Idle v) :
    Begins c a u v := Or.inl h.calls

theorem Begins.idle_trans {c : Collaborators σ} {a : Attempt} {u v w : World σ} (h : u.Idle v)
    (h' : Begins c a v w) : Begins c a u w := by
  rcases h' with hcalls | ⟨mode, call, v₁, v₂, hstore, hcall, hcalls⟩
  · exact Or.inl (hcalls.trans h.calls)
  · exact Or.inr ⟨mode, call, v₁, v₂, hstore.trans h.store, hcall, by rw [hcalls, h.calls]⟩

/-- A step that begins a payment does so after looking around. -/
theorem begins_bind {c : Collaborators σ} {a : Attempt} {x : Engine σ α} {f : α → Engine σ β}
    (hx : Quiet x) (hf : ∀ b, Keeps (Begins c a) (f b)) : Keeps (Begins c a) (x >>= f) :=
  Keeps.bind_of .of_idle .idle_trans hx hf

/-- A call that is made and recorded is the only one. -/
theorem calls_conclude (c : Collaborators σ) (a : Attempt) (call : GatewayCall) (w : World σ) :
    (conclude c a call w).2.calls = w.calls ++ [call] := by
  rcases h : conclude c a call w with ⟨r, w'⟩
  obtain ⟨e, hx, -⟩ | ⟨response, w₁, hx, hrecord⟩ := bind_cases h
  · obtain ⟨_, -, becomes, -⟩ := callGateway_cases hx
    exact becomes.calls
  · obtain ⟨_, -, called, -⟩ := callGateway_cases hx
    obtain ⟨e, -, idle, -⟩ | ⟨now, record, -, becomes, -⟩ := recordResponse_cases hrecord
    · exact idle.calls.trans called.calls
    · exact (called.trans becomes).calls

theorem begins_executeInitial (c : Collaborators σ) (a : Attempt) (mode : CallMode) :
    Keeps (Begins c a) (executeInitial c a mode) := by
  intro w
  rw [executeInitial_eq]
  have idle := quiet_initialCall c a mode w
  rcases hcall : initialCall c a mode w with ⟨e | call, w₁⟩
  · rw [hcall] at idle
    rw [bind_error _ hcall]
    exact .of_idle idle
  · rw [hcall] at idle
    rw [bind_ok _ hcall]
    exact Or.inr ⟨mode, call, w, w₁, rfl, hcall, by rw [calls_conclude, idle.calls]⟩

theorem begins_executeOrReplay (c : Collaborators σ) (a : Attempt) (prior : Option ResponseRecord)
    {mode : CallMode} (hmode : mode ≠ .modification) :
    Keeps (Begins c a) (executeOrReplay c a prior mode) := by
  refine begins_bind (quiet_read c _ _) fun existing => ?_
  cases existing with
  | some row =>
    simp only
    split
    · exact begins_executeInitial c a mode
    · exact fun w => .of_idle (quiet_ofOutcome _ w)
  | none =>
    simp only [if_neg hmode]
    exact begins_executeInitial c a mode

theorem begins_carryOut (c : Collaborators σ) {a : Attempt} (initial : a.kind.isInitial = true) :
    Keeps (Begins c a) (carryOut c a) := by
  unfold carryOut
  split
  · rename_i flagged
    intro w
    rcases hx : recordOnly c a w with ⟨r, w'⟩
    have hdue {call : GatewayCall} (due : Due w.store a call) : False := by
      rw [due.unflagged] at flagged
      cases flagged
    cases course_of_recordOnly flagged hx with
    | refused idle _ => exact .of_idle idle
    | replayed _ _ idle => exact .of_idle idle
    | noted _ _ becomes => exact Or.inl becomes.calls_eq
    | failed due _ _ => exact (hdue due).elim
    | lost due _ _ _ => exact (hdue due).elim
    | recorded due _ _ _ => exact (hdue due).elim
  · exact begins_bind (quiet_read c _ _) fun prior =>
      begins_executeOrReplay c a prior (route_ne_modification initial _)

/-- The call that is made for an attempt without a row of its transaction is gathered for what is
carried out. -/
theorem begins_submit (c : Collaborators σ) {a : Attempt} {w : World σ}
    (initial : a.kind.isInitial = true)
    (fresh : ∀ r ∈ w.store.rows, r.record.transactionId ≠ a.transactionId) :
    Begins c (carried a) w (submit c a w).2 := by
  unfold submit carried
  split
  · have hinitial : (withCaptureDelay a).kind.isInitial = true := initial
    rcases hx : purchase c a w with ⟨r, w'⟩
    obtain ⟨e, -, idle, -⟩ | ⟨row, hrow, -⟩ | ⟨-, w₁, idle, hcarry⟩ := purchase_cases hx
    · exact .of_idle idle
    · rw [Store.updateResponse_of_unknown a.properties fresh] at hrow
      cases hrow
    · have hbegins := begins_carryOut c hinitial w₁
      rw [hcarry] at hbegins
      exact .idle_trans idle hbegins
  · exact begins_bind (quiet_ofOutcome _) (fun _ => begins_carryOut c initial) w

/-- An attempt that begins a payment without a row of its transaction is served as it would be
without the nulls among its properties: the same calls are made, and if one of the two fails, the
other fails in the same fault. What its call tells is, name by name, what the attempt says, or else
what the stored payment method says, or else what is known besides; a purchase that gives no delay
says that it is to be captured at once. -/
theorem null_is_absent (c : Collaborators σ) {a : Attempt} {w : World σ}
    (initial : a.kind.isInitial = true)
    (fresh : ∀ r ∈ w.store.rows, r.record.transactionId ≠ a.transactionId)
    (transparent : (w.store.methodFor a).Transparent a.properties)
    (delay : a.kind = .purchase →
      a.properties.get? Property.captureDelayHours ≠ some .null) :
    (submit c a.withoutNulls w).2.calls = (submit c a w).2.calls ∧
      (∀ e, (submit c a.withoutNulls w).1 = .error e ↔ (submit c a w).1 = .error e) ∧
      ∀ call, (submit c a w).2.calls = w.calls ++ [call] →
        ∃ operation account merchantAccount payment user split,
          (∃ s, (c.account a.accountId s).1 = .ok account) ∧
            call = .initial operation merchantAccount payment user split ∧
            Preferred c.settings account (w.store.methodFor a) (carried a).properties
              merchantAccount payment.info user split := by
  obtain ⟨hcalls, hfault⟩ := alike_submit c initial fresh transparent delay
  refine ⟨hcalls, hfault, fun call hcall => ?_⟩
  have hmethod : w.store.methodFor (carried a) = w.store.methodFor a := by
    unfold carried
    split <;> rfl
  have haccountId : (carried a).accountId = a.accountId := by
    unfold carried
    split <;> rfl
  rcases begins_submit c initial fresh with hnone | ⟨mode, made, w₁, w₂, hstore, hmade, hone⟩
  · rw [hnone] at hcall
    exact absurd (congrArg List.length hcall) (by simp)
  · rw [hone, List.append_cancel_left_eq, List.singleton_inj] at hcall
    subst hcall
    have htransparent : (w₁.store.methodFor (carried a)).Transparent (carried a).properties := by
      rw [hstore, hmethod]
      exact transparent_carried transparent
    obtain ⟨account, merchantAccount, payment, user, split, haccount, hcall, hpreferred⟩ :=
      preferred_of_initialCall hmade htransparent
    rw [haccountId] at haccount
    rw [hstore, hmethod] at hpreferred
    exact ⟨_, account, merchantAccount, payment, user, split, haccount, hcall, hpreferred⟩

/-- A purchase with a stored payment method is told with its recurring type and its token, although
the call gives the token and the shopper's mail address as null. -/
theorem null_is_absent_stored :
    let c := Collaborators.steady ⟨63850161600000000, some 0⟩
      (.ok (.purchase { result := some .authorised }))
    let method : PaymentMethod :=
      { id := some "pm", token := some "TOKEN"
        additionalData := [(Property.recurringType, .text "ONECLICK")] }
    let w : World Unit := { store := { methods := [method] }, outside := () }
    let a : Attempt :=
      ⟨"acc", "pay", "tx", some "pm", .purchase, some (.finite false 1000 (-2)), some "EUR",
        [(Property.email, .null), (Property.recurringDetailId, .null)]⟩
    (submit c a.withoutNulls w).2.calls = (submit c a w).2.calls ∧
      ∃ operation account merchantAccount payment user split,
        (submit c a w).2.calls = [.initial operation merchantAccount payment user split] ∧
        Preferred c.settings account method (carried a).properties merchantAccount payment.info user
          split ∧
        payment.info.recurringType = some "ONECLICK" ∧
        payment.info.recurringDetailId = some "TOKEN" := by
  intro c method w a
  have transparent : (w.store.methodFor a).Transparent a.properties :=
    ⟨by decide, by decide, by decide⟩
  have fresh : ∀ r ∈ w.store.rows, r.record.transactionId ≠ a.transactionId :=
    fun r hr => absurd hr List.not_mem_nil
  obtain ⟨hcalls, -, htold⟩ :=
    null_is_absent c (a := a) (w := w) rfl fresh transparent (by decide)
  have hlength : (submit c a w).2.calls.length = 1 := by decide +kernel
  obtain ⟨call, hcall⟩ := List.length_eq_one_iff.1 hlength
  obtain ⟨operation, account, merchantAccount, payment, user, split, -, rfl, hpreferred⟩ :=
    htold call hcall
  obtain ⟨-, htoken, htype, -⟩ : _ ∧ _ ∧ _ ∧ _ := by
    have htexts := hpreferred.texts
    simp only [PaymentInfo.readings, List.forall_mem_cons] at htexts
    exact htexts
  refine ⟨hcalls, operation, account, merchantAccount, payment, user, split, hcall, hpreferred, ?_⟩
  exact ⟨htype.trans (by decide +kernel), htoken.trans (by decide +kernel)⟩

/-- A null of the call hides the recurring type of the stored payment method, and a null delay keeps
a purchase from being captured at once. -/
theorem null_hides_value :
    let c := Collaborators.steady ⟨63850161600000000, some 0⟩
      (.ok (.purchase { result := some .authorised }))
    let method : PaymentMethod :=
      { id := some "pm", additionalData := [(Property.recurringType, .text "ONECLICK")] }
    let w : World Unit := { store := { methods := [method] }, outside := () }
    let a : Attempt :=
      ⟨"acc", "pay", "tx", some "pm", .authorize, some (.finite false 1000 (-2)), some "EUR",
        [(Property.recurringType, .null)]⟩
    let p : Attempt :=
      { a with
        paymentMethodId := none
        kind := .purchase
        properties := [(Property.captureDelayHours, .null)] }
    let types (a : Attempt) := (submit c a w).2.calls.map (·.payment.info.recurringType)
    let delays (a : Attempt) := (submit c a w).2.calls.map (·.payment.info.captureDelayHours)
    types a = [none] ∧ types a.withoutNulls = [some "ONECLICK"] ∧
      delays p = [none] ∧ delays p.withoutNulls = [some 0] := by
  decide +kernel

end Engine

end CardPayments
