import CardPayments.Proofs.Engine.AtMostOnce

/-!
# The operation of a call

A call suits its attempt when it is of the operation that the attempt asks for, and it may resume
3-D Secure only for a reservation whose shopper is away. All calls suit but those of one kind: an
attempt that bears the transaction of the payment's latest successful authorization is taken for
the return of the shopper, even where it is a credit or has no row of its own.
-/

namespace CardPayments

variable {σ : Type}

/-- What holds of every call for an attempt. -/
structure GatewayCall.Guarded (s : Store) (a : Attempt) (call : GatewayCall) : Prop where
  /-- The attempt does not come from the hosted page. -/
  unflagged : a.properties.affirms Property.fromHostedPage = false
  /-- A plain authorization is the first of its transaction and type. -/
  first : call.operation = InitialOperation.authorize.name →
    s.latestOf? a.transactionId a.kind = none
  /-- A capture is served by a capture. -/
  capture : a.kind = .capture → call.operation = FollowUpOperation.capture.name
  /-- A void is served by a cancellation. -/
  void : a.kind = .void → call.operation = FollowUpOperation.cancel.name
  /-- A refund is served by a refund. -/
  refund : a.kind = .refund → call.operation = FollowUpOperation.refund.name

/-- Whether a call fits its attempt. -/
structure GatewayCall.Suits (s : Store) (a : Attempt) (call : GatewayCall) : Prop
    extends call.Guarded s a where
  /-- A credit is served by a credit. -/
  credit : a.kind = .credit → call.operation = InitialOperation.credit.name
  /-- 3-D Secure is resumed for a reservation whose latest row waits for the shopper. -/
  resumed : call.operation = InitialOperation.authorizeSecure.name →
    (a.kind = .authorize ∨ a.kind = .purchase) ∧
      ∃ row, s.latestOf? a.transactionId a.kind = some row ∧
        row.record.pspResult = awaitsShopper

/-- Whether an attempt is taken for the return of a shopper although it is a credit, or nothing of
its transaction and type is recorded. -/
def Store.Mistakes (s : Store) (a : Attempt) : Prop :=
  s.modeFor a = .secureContinuation ∧
    (a.kind = .credit ∨ s.latestOf? a.transactionId a.kind = none)

/-- No follow-up resumes 3-D Secure. -/
theorem Engine.followUpOperation_ne_secure (kind : TransactionType) :
    (followUpOperation kind).name ≠ InitialOperation.authorizeSecure.name := by
  cases kind <;> decide

/-- How an attempt is served, whatever its mode is drawn from. -/
theorem Store.modeFor_cases (s : Store) (a : Attempt) :
    (s.modeFor a = .modification ∧ a.kind.isInitial = false) ∨
      (s.modeFor a = .secureContinuation ∧ a.kind.isInitial = true) ∨
      (s.modeFor a = .credit ∧ a.kind = .credit) ∨
      (s.modeFor a = .authorize ∧ (a.kind = .authorize ∨ a.kind = .purchase)) := by
  unfold Store.modeFor CallMode.route
  cases CallMode.resumesSecure ((s.latestAuthorization? a.paymentId).map Row.record)
      a.transactionId <;>
    cases a.kind <;> decide

/-- A call is due for what is carried out when it is due for what was asked for. -/
theorem Due.of_carried {s : Store} {a : Attempt} {call : GatewayCall}
    (h : Due s (Engine.carried a) call) : Due s a call := by
  obtain ⟨unflagged, awaited, serves⟩ := h
  rw [Engine.affirms_carried] at unflagged
  rw [Engine.transactionId_carried, Engine.kind_carried, Engine.modeFor_carried] at awaited
  refine ⟨unflagged, awaited, ?_⟩
  cases call with
  | initial operation =>
    simp only [GatewayCall.Serves, Engine.modeFor_carried] at serves
    exact serves
  | followUp operation =>
    simp only [GatewayCall.Serves, Engine.modeFor_carried, Store.referenceFor,
      Engine.kind_carried, Engine.paymentId_carried] at serves
    exact serves

/-- Only while the shopper is away is a call due for a transaction and type that has a row. -/
theorem Due.unknown {s : Store} {a : Attempt} {call : GatewayCall} (h : Due s a call)
    (hmode : s.modeFor a ≠ .secureContinuation) : s.latestOf? a.transactionId a.kind = none := by
  rcases hrow : s.latestOf? a.transactionId a.kind with _ | row
  · rfl
  · exact absurd (CallMode.awaitsSecure_iff.1 (h.awaited row hrow)).1 hmode

/-- The operation of a call that is due is settled by the mode and the type of the attempt. -/
theorem Due.operation_cases {s : Store} {a : Attempt} {call : GatewayCall} (h : Due s a call) :
    (s.modeFor a = .modification ∧ a.kind.isInitial = false ∧
        call.operation = (Engine.followUpOperation a.kind).name) ∨
      (s.modeFor a = .secureContinuation ∧ a.kind.isInitial = true ∧
        call.operation = InitialOperation.authorizeSecure.name) ∨
      (s.modeFor a = .credit ∧ a.kind = .credit ∧
        call.operation = InitialOperation.credit.name) ∨
      (s.modeFor a = .authorize ∧ (a.kind = .authorize ∨ a.kind = .purchase) ∧
        call.operation = InitialOperation.authorize.name) := by
  have hserves := h.serves
  cases call with
  | followUp operation =>
    obtain ⟨hmode, rfl, -⟩ := hserves
    rcases s.modeFor_cases a with ⟨-, hkind⟩ | ⟨hother, -⟩ | ⟨hother, -⟩ | ⟨hother, -⟩
    · exact Or.inl ⟨hmode, hkind, rfl⟩
    all_goals
      rw [hmode] at hother
      cases hother
  | initial operation =>
    obtain ⟨hne, rfl⟩ := hserves
    have hname : ∀ {mode}, s.modeFor a = mode → (Engine.initialOperation (s.modeFor a)).name =
        (Engine.initialOperation mode).name := fun hmode => by rw [hmode]
    rcases s.modeFor_cases a with ⟨hmode, -⟩ | ⟨hmode, hkind⟩ | ⟨hmode, hkind⟩ | ⟨hmode, hkind⟩
    · exact absurd hmode hne
    · exact Or.inr (Or.inl ⟨hmode, hkind, hname hmode⟩)
    · exact Or.inr (Or.inr (Or.inl ⟨hmode, hkind, hname hmode⟩))
    · exact Or.inr (Or.inr (Or.inr ⟨hmode, hkind, hname hmode⟩))

/-- A call that is due is guarded. -/
theorem Due.guarded {s : Store} {a : Attempt} {call : GatewayCall} (h : Due s a call) :
    call.Guarded s a := by
  -- A type that acts on an authorization is served by the follow-up of its name.
  have hfollow : ∀ {kind}, a.kind = kind → kind.isInitial = false →
      call.operation = (Engine.followUpOperation kind).name := by
    rintro kind rfl hinitial
    rcases h.operation_cases with ⟨-, -, hname⟩ | ⟨-, hkind, -⟩ | ⟨-, hkind, -⟩ | ⟨-, hkind, -⟩
    · exact hname
    · rw [hinitial] at hkind
      cases hkind
    · rw [hkind] at hinitial
      cases hinitial
    · rcases hkind with hkind | hkind <;> rw [hkind] at hinitial <;> cases hinitial
  refine ⟨h.unflagged, fun hfirst => h.unknown fun hmode => ?_, fun hkind => hfollow hkind rfl,
    fun hkind => hfollow hkind rfl, fun hkind => hfollow hkind rfl⟩
  rcases h.operation_cases with ⟨hother, -⟩ | ⟨-, -, hname⟩ | ⟨hother, -⟩ | ⟨hother, -⟩
  · rw [hmode] at hother
    cases hother
  · rw [hname] at hfirst
    exact absurd hfirst (by decide)
  all_goals
    rw [hmode] at hother
    cases hother

/-- A call that resumes 3-D Secure suits its attempt exactly when the attempt is no credit and has a
row of its own. -/
theorem Due.suits_secure_iff {s : Store} {a : Attempt} {call : GatewayCall} (h : Due s a call)
    (hinitial : a.kind.isInitial = true)
    (hname : call.operation = InitialOperation.authorizeSecure.name) :
    call.Suits s a ↔ a.kind ≠ .credit ∧ s.latestOf? a.transactionId a.kind ≠ none := by
  constructor
  · intro hsuits
    refine ⟨fun hcredit => ?_, fun hunknown => ?_⟩
    · have hoperation := hsuits.credit hcredit
      rw [hname] at hoperation
      exact absurd hoperation (by decide)
    · obtain ⟨-, row, hrow, -⟩ := hsuits.resumed hname
      rw [hunknown] at hrow
      cases hrow
  · rintro ⟨hcredit, hknown⟩
    obtain ⟨row, hrow⟩ := Option.ne_none_iff_exists'.1 hknown
    refine ⟨h.guarded, fun hkind => absurd hkind hcredit, fun _ => ⟨?_, row, hrow, h.waits hrow⟩⟩
    cases hkind : a.kind with
    | authorize => exact Or.inl rfl
    | purchase => exact Or.inr rfl
    | credit => exact absurd hkind hcredit
    | capture | void | refund =>
      rw [hkind] at hinitial
      cases hinitial

/-- A call that is due suits its attempt unless the attempt is mistaken. -/
theorem Due.suits_iff {s : Store} {a : Attempt} {call : GatewayCall} (h : Due s a call) :
    call.Suits s a ↔ ¬ s.Mistakes a := by
  unfold Store.Mistakes
  rcases h.operation_cases with ⟨hmode, hkind, hname⟩ | ⟨hmode, hkind, hname⟩ |
    ⟨hmode, hkind, hname⟩ | ⟨hmode, hkind, hname⟩
  · rw [hmode]
    refine iff_of_true ⟨h.guarded, fun hcredit => ?_, fun hsecure => ?_⟩ fun hmistaken => ?_
    · rw [hcredit] at hkind
      cases hkind
    · rw [hname] at hsecure
      exact absurd hsecure (Engine.followUpOperation_ne_secure a.kind)
    · cases hmistaken.1
  · rw [h.suits_secure_iff hkind hname, hmode, not_and, not_or]
    exact ⟨fun hright _ => hright, fun hright => hright rfl⟩
  · rw [hmode]
    refine iff_of_true ⟨h.guarded, fun _ => hname, fun hsecure => ?_⟩ fun hmistaken => ?_
    · rw [hname] at hsecure
      exact absurd hsecure (by decide)
    · cases hmistaken.1
  · rw [hmode]
    refine iff_of_true ⟨h.guarded, fun hcredit => ?_, fun hsecure => ?_⟩ fun hmistaken => ?_
    · rcases hkind with hkind | hkind <;> rw [hkind] at hcredit <;> cases hcredit
    · rw [hname] at hsecure
      exact absurd hsecure (by decide)
    · cases hmistaken.1

namespace Engine

/-- A course makes no call, or one that is due. -/
theorem due_of_course {c : Collaborators σ} {a : Attempt} {w w' : World σ}
    {r : Outcome TransactionInfo} (h : Course c a w r w') :
    w'.calls = w.calls ∨ ∃ call, w'.calls = w.calls ++ [call] ∧ Due w.store a call := by
  cases h with
  | refused idle early => exact Or.inl idle.calls
  | replayed unflagged known idle => exact Or.inl idle.calls
  | noted flagged made becomes => exact Or.inl becomes.calls_eq
  | failed due failure becomes => exact Or.inr ⟨_, becomes.calls, due⟩
  | lost due answer late becomes => exact Or.inr ⟨_, becomes.calls, due⟩
  | recorded due answer made becomes => exact Or.inr ⟨_, becomes.calls, due⟩

/-- An attempt makes no call, or one that is due. -/
theorem due_of_enter (c : Collaborators σ) (w : World σ) (a : Attempt) :
    ∀ enter ∈ [submit c a, process c a], (enter w).2.calls = w.calls ∨
      ∃ call, (enter w).2.calls = w.calls ++ [call] ∧ Due w.store a call := by
  intro enter henter
  rcases List.mem_cons.1 henter with rfl | henter
  · rcases submit_cases (rfl : submit c a w = (_, _)) with ⟨row, _, _, becomes, _⟩ | course
    · exact Or.inl becomes.calls_eq
    · rcases due_of_course course with hnone | ⟨call, hcall, due⟩
      · exact Or.inl hnone
      · exact Or.inr ⟨call, hcall, due.of_carried⟩
  · obtain rfl := List.mem_singleton.1 henter
    exact due_of_course (course_of_process rfl)

/-- In every state, an attempt makes no call or a single one, which is guarded; and that call suits
the attempt exactly when the attempt is not mistaken for the return of a shopper. -/
theorem call_suits_iff (c : Collaborators σ) (w : World σ) (a : Attempt) :
    ∀ enter ∈ [submit c a, process c a], (enter w).2.calls = w.calls ∨
      ∃ call, (enter w).2.calls = w.calls ++ [call] ∧ call.Guarded w.store a ∧
        (call.Suits w.store a ↔ ¬ w.store.Mistakes a) := by
  intro enter henter
  rcases due_of_enter c w a enter henter with hnone | ⟨call, hcall, due⟩
  · exact Or.inl hnone
  · exact Or.inr ⟨call, hcall, due.guarded, due.suits_iff⟩

/-- The return of a shopper makes a call that suits it, and is no mistake. -/
theorem call_suits_iff_resumed :
    let c := Collaborators.steady ⟨63850161600000000, some 0⟩
      (.ok (.purchase { result := some .redirectShopper }))
    let a : Attempt :=
      ⟨"acc", "pay", "tx", none, .authorize, some (.finite false 1000 (-2)), some "EUR", []⟩
    let w := run c (initial [] ()) [.payment a]
    ∃ call, (submit c a w).2.calls = w.calls ++ [call] ∧ call.Suits w.store a ∧
      ¬ w.store.Mistakes a := by
  intro c a w
  have hright : ¬ w.store.Mistakes a := by
    rintro ⟨-, hkind | hunknown⟩
    · cases hkind
    · exact absurd (congrArg Option.isSome hunknown) (by decide +kernel)
  rcases call_suits_iff c w a (submit c a) List.mem_cons_self with hnone | ⟨call, hcall, -, hsuits⟩
  · exact absurd (congrArg List.length hnone) (by decide +kernel)
  · exact ⟨call, hcall, hsuits.2 hright, hright⟩

/-- A credit that bears the transaction of an earlier authorization resumes 3-D Secure, although no
shopper is away. -/
theorem credit_resumes_secure :
    let c := Collaborators.steady ⟨63850161600000000, some 0⟩
      (.ok (.purchase { result := some .authorised }))
    let a : Attempt :=
      ⟨"acc", "pay", "tx", none, .authorize, some (.finite false 1000 (-2)), some "EUR", []⟩
    let credit : Attempt := { a with kind := .credit }
    let w := run c (initial [] ()) [.payment a]
    ∃ call, (submit c credit w).2.calls = w.calls ++ [call] ∧
      call.operation = InitialOperation.authorizeSecure.name ∧ ¬ call.Suits w.store credit := by
  intro c a credit w
  have hcalls : (submit c credit w).2.calls.map GatewayCall.operation =
      w.calls.map GatewayCall.operation ++ [InitialOperation.authorizeSecure.name] := by
    decide +kernel
  rcases due_of_enter c w credit (submit c credit) List.mem_cons_self with
    hnone | ⟨call, hcall, -⟩
  · rw [hnone] at hcalls
    exact absurd (congrArg List.length hcalls) (by simp)
  rw [hcall, List.map_append] at hcalls
  have hname : call.operation = InitialOperation.authorizeSecure.name :=
    List.singleton_inj.1 (List.append_cancel_left hcalls)
  refine ⟨call, hcall, hname, fun hsuits => ?_⟩
  have hcredit := hsuits.credit rfl
  rw [hname] at hcredit
  exact absurd hcredit (by decide)

end Engine

end CardPayments
