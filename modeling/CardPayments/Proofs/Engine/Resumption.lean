import CardPayments.Proofs.Engine.AtMostOnce
import CardPayments.Proofs.Engine.Progress

/-!
# Coming back from 3-D Secure

A shopper who was sent to 3-D Secure leaves a row behind that waits for the return. An authorization
that is asked for again then makes the call that resumes it, unless the payment has been authorized
otherwise in the meantime; a purchase instead returns to its row, lays the new properties over it
and makes no call.
-/

namespace CardPayments

variable {σ : Type}

/-- Whether the latest row of a transaction waits for the shopper: the rows before it, the row
itself, and the rows of other transactions after it. -/
structure Store.Interrupted (s : Store) (a : Attempt) (earlier : List Row) (row : Row)
    (later : List Row) : Prop where
  /-- The rows in their order. -/
  rows : s.rows = earlier ++ row :: later
  /-- An amount was to be reserved. -/
  reserves : a.kind.isAuthorization = true
  /-- The row belongs to the transaction. -/
  transaction : row.record.transactionId = a.transactionId
  /-- The row belongs to the payment. -/
  payment : row.record.paymentId = a.paymentId
  /-- The row is of the same type. -/
  kind : row.record.kind = a.kind
  /-- The shopper was sent to 3-D Secure. -/
  waits : row.record.pspResult = awaitsShopper
  /-- Nothing of the transaction came after it. -/
  others : ∀ r ∈ later, r.record.transactionId ≠ a.transactionId

namespace Store.Interrupted

variable {s : Store} {a : Attempt} {earlier later : List Row} {row : Row}

/-- The row that waits is the latest one of its transaction and type. -/
theorem latestOf (h : s.Interrupted a earlier row later) :
    s.latestOf? a.transactionId a.kind = some row := by
  refine latest?_of_rows h.rows ?_ fun r hr => ?_
  · rw [h.transaction, h.kind, beq_self_eq_true, beq_self_eq_true]
    rfl
  · rw [beq_eq_false_iff_ne.2 (h.others r hr)]
    rfl

/-- It is also the payment's latest successful authorization, if none came after it. -/
theorem latestAuthorization (h : s.Interrupted a earlier row later)
    (last : ∀ r ∈ later, r.record.paymentId = a.paymentId →
      r.record.isSuccessfulAuthorization = false) :
    s.latestAuthorization? a.paymentId = some row := by
  refine latest?_of_rows h.rows ?_ fun r hr => ?_
  · have hsuccess : row.record.isSuccessfulAuthorization = true := by
      unfold ResponseRecord.isSuccessfulAuthorization
      rw [h.kind, h.reserves, h.waits]
      decide
    rw [h.payment, hsuccess, beq_self_eq_true]
    rfl
  · by_cases hpayment : r.record.paymentId = a.paymentId
    · rw [last r hr hpayment, Bool.and_false]
    · rw [beq_eq_false_iff_ne.2 hpayment, Bool.false_and]

/-- Then the transaction resumes 3-D Secure. -/
theorem modeFor (h : s.Interrupted a earlier row later)
    (last : ∀ r ∈ later, r.record.paymentId = a.paymentId →
      r.record.isSuccessfulAuthorization = false) :
    s.modeFor a = .secureContinuation := by
  have hinitial : a.kind.isInitial = true := by
    have hreserves := h.reserves
    cases hkind : a.kind with
    | authorize | purchase | credit => rfl
    | capture | void | refund =>
      rw [hkind] at hreserves
      cases hreserves
  unfold Store.modeFor CallMode.route
  rw [h.latestAuthorization last, hinitial]
  simp only [Option.map_some, CallMode.resumesSecure, h.transaction, beq_self_eq_true]
  rfl

/-- A transaction that has been overtaken does not. -/
theorem modeFor_ne (h : s.Interrupted a earlier row later)
    (overtaken : ∃ r ∈ later, r.record.paymentId = a.paymentId ∧
      r.record.isSuccessfulAuthorization = true) :
    s.modeFor a ≠ .secureContinuation := by
  obtain ⟨r, hr, hpayment, hsuccess⟩ := overtaken
  obtain ⟨latest, hlatest, hlookup, -⟩ := latest?_append_of_mem
    (s := { s with rows := earlier ++ [row] }) (t := s)
    (p := fun r => r.paymentId == a.paymentId && r.isSuccessfulAuthorization)
    (h.rows.trans (List.append_cons earlier row later)) hr
    (by rw [hpayment, hsuccess, beq_self_eq_true]; rfl)
  have hfound : s.latestAuthorization? a.paymentId = some latest := hlookup
  have hother : CallMode.resumesSecure ((s.latestAuthorization? a.paymentId).map Row.record)
      a.transactionId = false := by
    rw [hfound]
    exact beq_eq_false_iff_ne.2 (h.others latest hlatest)
  unfold Store.modeFor
  rw [hother]
  cases a.kind <;> decide

end Store.Interrupted

namespace Engine

/-- An attempt with a row of its own comes down to serving it once more or telling what its row
says. -/
theorem ends_process_of_known {c : Collaborators σ} (hc : c.Records) {w : World σ} {a : Attempt}
    (checked : a.check = .ok ()) (unflagged : a.properties.affirms Property.fromHostedPage = false)
    {row : Row} (known : w.store.latestOf? a.transactionId a.kind = some row) :
    ∃ w', w.Idle w' ∧ ∀ {r store made},
      Ends (if CallMode.awaitsSecure (w.store.modeFor a) row.record
        then executeInitial c a (w.store.modeFor a)
        else ofOutcome (TransactionInfo.ofRecord row.record)) w' r store made →
      Ends (process c a) w r store made := by
  obtain ⟨w₁, idle, hprocess⟩ := process_eq_executeOrReplay hc checked unflagged w
  obtain ⟨w₂, hexisting, idle'⟩ := finds_read hc "get_transaction_response"
    (·.latestOf? a.transactionId a.kind) w₁
  rw [idle.store, known] at hexisting
  exact ⟨w₂, idle.trans idle', fun hends =>
    .of_eq (hprocess.trans (bind_ok _ hexisting)) (idle.trans idle') hends⟩

/-- An authorization whose shopper comes back resumes 3-D Secure. -/
theorem ends_process_of_interrupted {c : Collaborators σ} (hc : c.Works) {w : World σ} {a : Attempt}
    {earlier later : List Row} {row : Row} (h : w.store.Interrupted a earlier row later)
    (valid : a.Valid w.store)
    (unflagged : a.properties.affirms Property.fromHostedPage = false)
    (last : ∀ r ∈ later, r.record.paymentId = a.paymentId →
      r.record.isSuccessfulAuthorization = false) :
    ∃ call response now record, call.operation = InitialOperation.authorizeSecure.name ∧
      (∃ s, (c.gateway call s).1 = .ok response) ∧
      ResponseRecord.ofResponse a response now = .ok record ∧
      Ends (process c a) w (TransactionInfo.ofResponse a response now)
        (w.store.addResponse record).2 [⟨call, .ok response⟩] := by
  obtain ⟨w', idle, hprocess⟩ :=
    ends_process_of_known hc.toRecords valid.checked unflagged h.latestOf
  have htellable := valid.tellable
  rw [← idle.store] at htellable
  obtain ⟨call, response, now, record, hname, hanswer, hrecord, hends⟩ :=
    ends_executeInitial hc htellable .secureContinuation
  rw [idle.store] at hends
  refine ⟨call, response, now, record, hname, hanswer, hrecord, hprocess ?_⟩
  rw [h.modeFor last, if_pos (CallMode.awaitsSecure_iff.2 ⟨rfl, h.waits⟩)]
  exact hends

/-- An authorization that has been overtaken by another one of its payment is told what its row
says. -/
theorem ends_process_of_overtaken {c : Collaborators σ} (hc : c.Records) {w : World σ} {a : Attempt}
    {earlier later : List Row} {row : Row} (h : w.store.Interrupted a earlier row later)
    (checked : a.check = .ok ()) (unflagged : a.properties.affirms Property.fromHostedPage = false)
    (overtaken : ∃ r ∈ later, r.record.paymentId = a.paymentId ∧
      r.record.isSuccessfulAuthorization = true) :
    Ends (process c a) w (TransactionInfo.ofRecord row.record) w.store [] := by
  obtain ⟨w', idle, hprocess⟩ := ends_process_of_known hc checked unflagged h.latestOf
  refine hprocess ?_
  rw [if_neg fun hawaits => h.modeFor_ne overtaken (CallMode.awaitsSecure_iff.1 hawaits).1]
  exact ⟨w', rfl, idle.store, (List.append_nil _).symm, rfl⟩

/-- A purchase whose shopper comes back returns to its row. -/
theorem ends_purchase_of_interrupted {c : Collaborators σ} (hc : c.Records) {w : World σ}
    {a : Attempt} {earlier later : List Row} {row : Row}
    (h : w.store.Interrupted a earlier row later) (numbered : w.store.Numbered)
    (checked : a.check = .ok ()) :
    Ends (purchase c a) w (TransactionInfo.ofRecord (row.merge a.properties).record)
      { w.store with rows := earlier ++ row.merge a.properties :: later } [] :=
  ends_purchase_of_found hc checked
    (Store.updateResponse_of_rows numbered h.rows h.transaction h.others a.properties)

/-- After every run, a transaction whose shopper was sent to 3-D Secure and is asked for again goes
on from the row that waits. An authorization makes the one call that resumes it and adds one row; if
the payment has had another successful authorization since, it makes no call and tells what the row
says. A purchase lays its properties over the row and tells what the row then says, without a
call. -/
theorem interrupted_goes_on (c₀ : Collaborators σ) {c : Collaborators σ} (hc : c.Works)
    (methods : List PaymentMethod) (outside : σ) (requests : List Request) {a : Attempt}
    {earlier later : List Row} {row : Row} :
    let w := run c₀ (initial methods outside) requests
    w.store.Interrupted a earlier row later → a.Valid w.store →
      a.properties.affirms Property.fromHostedPage = false →
      (a.kind = .authorize → (∀ r ∈ later, r.record.paymentId = a.paymentId →
          r.record.isSuccessfulAuthorization = false) →
        ∃ call response now record, call.operation = InitialOperation.authorizeSecure.name ∧
          (∃ s, (c.gateway call s).1 = .ok response) ∧
          ResponseRecord.ofResponse a response now = .ok record ∧ record.For a ∧
          Ends (submit c a) w (TransactionInfo.ofResponse a response now)
            (w.store.addResponse record).2 [⟨call, .ok response⟩]) ∧
      (a.kind = .authorize → (∃ r ∈ later, r.record.paymentId = a.paymentId ∧
          r.record.isSuccessfulAuthorization = true) →
        Ends (submit c a) w (TransactionInfo.ofRecord row.record) w.store []) ∧
      (a.kind = .purchase →
        Ends (submit c a) w (TransactionInfo.ofRecord (row.merge a.properties).record)
          { w.store with rows := earlier ++ row.merge a.properties :: later } []) := by
  intro w interrupted valid unflagged
  have hsubmit : a.kind = .authorize → submit c a = process c a := fun hkind =>
    if_neg fun hpurchase => TransactionType.noConfusion (hkind.symm.trans hpurchase)
  refine ⟨fun hkind last => ?_, fun hkind overtaken => ?_, fun hkind => ?_⟩
  · obtain ⟨call, response, now, record, hname, hanswer, hrecord, hends⟩ :=
      ends_process_of_interrupted hc interrupted valid unflagged last
    rw [hsubmit hkind]
    exact ⟨call, response, now, record, hname, hanswer, hrecord,
      ResponseRecord.for_of_ofResponse hrecord, hends⟩
  · rw [hsubmit hkind]
    exact ends_process_of_overtaken hc.toRecords interrupted valid.checked unflagged overtaken
  · have hpurchase : submit c a = purchase c a := if_pos hkind
    have numbered : w.store.Numbered := numbered_run c₀ (numbered_initial methods outside) requests
    rw [hpurchase]
    exact ends_purchase_of_interrupted hc.toRecords interrupted numbered valid.checked

/-- An authorization and a purchase go on from their rows, although a credit of the same payment has
been recorded since. -/
theorem interrupted_goes_on_after_credit :
    let c := Collaborators.steady ⟨63850161600000000, some 0⟩
      (.ok (.purchase { result := some .redirectShopper }))
    let a : Attempt :=
      ⟨"acc", "pay", "tx", none, .authorize, some (.finite false 1000 (-2)), some "EUR", []⟩
    let p : Attempt := { a with kind := .purchase }
    let credit : Attempt := { a with kind := .credit, transactionId := "other" }
    let w := run c (initial [] ()) [.payment a, .payment credit]
    let v := run c (initial [] ()) [.payment p, .payment credit]
    (∃ call response r store, call.operation = InitialOperation.authorizeSecure.name ∧
      Ends (submit c a) w r store [⟨call, .ok response⟩]) ∧
      ∃ r store, Ends (submit c p) v r store [] := by
  intro c a p credit w v
  have works : c.Works := Collaborators.works_steady rfl rfl
  constructor
  · obtain ⟨row, other, interrupted, hother⟩ : ∃ row other,
        w.store.Interrupted a [] row [other] ∧ other.record.kind = .credit := by
      refine ⟨_, _, ⟨rfl, rfl, rfl, rfl, rfl, rfl, fun r hr => ?_⟩, rfl⟩
      obtain rfl := List.mem_singleton.1 hr
      decide
    have valid : a.Valid w.store := .of_bare rfl rfl rfl rfl (by decide +kernel)
    obtain ⟨hauthorize, -⟩ :=
      interrupted_goes_on c works [] () [.payment a, .payment credit] interrupted valid rfl
    obtain ⟨call, response, now, record, hname, -, -, -, hends⟩ := hauthorize rfl fun r hr _ => by
      obtain rfl := List.mem_singleton.1 hr
      simp only [ResponseRecord.isSuccessfulAuthorization, hother]
      rfl
    exact ⟨call, response, _, _, hname, hends⟩
  · obtain ⟨row, other, interrupted⟩ : ∃ row other, v.store.Interrupted p [] row [other] := by
      refine ⟨_, _, ⟨rfl, rfl, rfl, rfl, rfl, rfl, fun r hr => ?_⟩⟩
      obtain rfl := List.mem_singleton.1 hr
      decide
    have valid : p.Valid v.store := .of_bare rfl rfl rfl rfl (by decide +kernel)
    obtain ⟨-, -, hpurchase⟩ :=
      interrupted_goes_on c works [] () [.payment p, .payment credit] interrupted valid rfl
    exact ⟨_, _, hpurchase rfl⟩

/-- A purchase whose shopper comes back makes no call and adds no row; nor does an authorization
whose payment has had another successful authorization since. -/
theorem interrupted_not_resumed :
    let c := Collaborators.steady ⟨63850161600000000, some 0⟩
      (.ok (.purchase { result := some .redirectShopper }))
    let a : Attempt :=
      ⟨"acc", "pay", "tx", none, .authorize, some (.finite false 1000 (-2)), some "EUR", []⟩
    let p : Attempt := { a with kind := .purchase }
    let b : Attempt := { a with transactionId := "other" }
    let w := run c (initial [] ()) [.payment a, .payment b]
    let v := run c (initial [] ()) [.payment p]
    let stays (x : Attempt) (u : World Unit) : Prop :=
      (∃ row later, u.store.Interrupted x [] row later) ∧ x.Valid u.store ∧
        x.properties.affirms Property.fromHostedPage = false ∧
        (submit c x u).2.calls = u.calls ∧
        (submit c x u).2.store.rows.length = u.store.rows.length
    c.Works ∧ stays p v ∧ stays a w := by
  intro c a p b w v stays
  have alone : ∃ row later, v.store.Interrupted p [] row later :=
    ⟨_, [], rfl, rfl, rfl, rfl, rfl, rfl, fun r hr => absurd hr List.not_mem_nil⟩
  have between : ∃ row later, w.store.Interrupted a [] row later := by
    refine ⟨_, [_], rfl, rfl, rfl, rfl, rfl, rfl, fun r hr => ?_⟩
    obtain rfl := List.mem_singleton.1 hr
    decide
  exact ⟨Collaborators.works_steady rfl rfl,
    ⟨alone, .of_bare rfl rfl rfl rfl (by decide +kernel), rfl, congrArg (List.map _) rfl,
      by decide +kernel⟩,
    ⟨between, .of_bare rfl rfl rfl rfl (by decide +kernel), rfl, congrArg (List.map _) rfl,
      by decide +kernel⟩⟩

end Engine

end CardPayments
