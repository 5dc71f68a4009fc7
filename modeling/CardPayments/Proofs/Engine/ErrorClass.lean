import CardPayments.Proofs.Engine.Course

/-!
# What the class of an error tells

The billing platform learns from the class of a business error alone what has become of the money:
whether the gateway was called, whether it answered, and whether the same call may be made again.
-/

namespace CardPayments

variable {σ : Type}

/-- What an error tells of the gateway and the store. The answer whose details it carries is the one
that the log names beside this call. No error stands for a call that was recorded. -/
def BusinessError.Tells (c : Collaborators σ) (w w' : World σ) (e : BusinessError) : Prop :=
  match e with
  | .gatewayCallFailed .. => e.retryable = true ∧
      ∃ call cause, (∃ s, (c.gateway call s).1 = .error cause) ∧
        w.Becomes w.store [⟨call, .error cause⟩] w'
  | .resultNotRecorded .. => e.retryable = false ∧
      ∃ call response status details, (∃ s, (c.gateway call s).1 = .ok response) ∧
        response.status = .ok status ∧ e.details = some details ∧
        details.get? "psp_reference" = some (.ofText? response.reference?) ∧
        details.get? "status" = some (.text status.name) ∧
        w.Becomes w.store [⟨call, .ok response⟩] w'
  | .invalidInput .. | .missingAuthorization .. | .recordStore .. =>
      e.retryable = false ∧ w.Becomes w.store [] w'
  | .hostedPage .. | .other .. => False

namespace Engine

/-- An answer that was lost is told with its reference and its status. -/
theorem details_lostFault {a : Attempt} {response : GatewayResponse} {status : PaymentStatus}
    {cause : Fault} {e : BusinessError} (h : .business e = lostFault a response status cause) :
    ∃ details, e.details = some details ∧
      details.get? "psp_reference" = some (.ofText? response.reference?) ∧
      details.get? "status" = some (.text status.name) := by
  have hreference : "psp_reference" ∉ ["kb_payment_id", "kb_transaction_id"] := by decide
  have hstatus : "status" ∉ ["kb_payment_id", "kb_transaction_id"] := by decide
  obtain rfl := Fault.business.inj h
  refine ⟨_, rfl, (Bag.get?_onto_of_not_mem ?_ _).trans rfl,
    (Bag.get?_onto_of_not_mem ?_ _).trans rfl⟩
  · exact hreference
  · exact hstatus

/-- On every course, a business error tells what has happened. -/
theorem tells_of_course {c : Collaborators σ} (hc : c.Ordinary) {a : Attempt} {w w' : World σ}
    {r : Outcome TransactionInfo} {e : BusinessError} (hr : r = .error (.business e))
    (h : Course c a w r w') : e.Tells c w w' := by
  cases h with
  | refused idle early =>
    obtain rfl := Except.error.inj hr
    have hearly := early hc
    cases e with
    | invalidInput | missingAuthorization | recordStore => exact ⟨rfl, idle.becomes⟩
    | gatewayCallFailed | resultNotRecorded | hostedPage | other => cases hearly
  | replayed unflagged known idle =>
    have hbusiness := TransactionInfo.isBusiness_of_ofRecord hr
    cases hbusiness
  | noted flagged made becomes =>
    have hbusiness := TransactionInfo.isBusiness_of_ofRecord hr
    cases hbusiness
  | failed due failure becomes =>
    obtain rfl := Fault.business.inj (Except.error.inj hr)
    exact ⟨rfl, _, _, failure, becomes⟩
  | lost due answer late becomes =>
    obtain rfl := Except.error.inj hr
    obtain ⟨status, cause, hstatus, he⟩ := late hc rfl
    obtain ⟨details, hdetails, hreference, hname⟩ := details_lostFault he
    obtain rfl := Fault.business.inj he
    exact ⟨rfl, _, _, status, details, answer, hstatus, hdetails, hreference, hname, becomes⟩
  | recorded due answer made becomes =>
    have hbusiness := TransactionInfo.isBusiness_of_ofResponse hr
    cases hbusiness

/-- The class of an error tells what has happened to the money: a failed call left nothing behind
and may be made again, an answer that was lost is told in full and may not, and every other business
error arose before any call. -/
theorem error_class_tells {c : Collaborators σ} (hc : c.Ordinary) {a : Attempt} {w w' : World σ}
    {e : BusinessError} (h : submit c a w = (.error (.business e), w')) : e.Tells c w w' := by
  rcases submit_cases h with ⟨row, _, _, _, hr⟩ | course
  · have hbusiness := TransactionInfo.isBusiness_of_ofRecord hr.symm
    cases hbusiness
  · exact tells_of_course hc rfl course

/-- Collaborators whose gateway times out on credits and gives every other call a reference of its
own, and whose store can be read but not committed. -/
def forgetful : Collaborators Nat where
  settings := {}
  page := none
  clock s := (.ok ⟨63850161600000000, some 0⟩, s)
  freshKey s := ("key", s)
  account id s := (.ok { id }, s)
  externalKey _ _ s := (.ok "key", s)
  openPending _ s := (.ok ⟨"payment", "transaction"⟩, s)
  gateway call s :=
    match call.operation with
    | "credit" => (.error (.outside "TimeoutError" "timed out"), s)
    | _ =>
      (.ok (.purchase {
        result := some .authorised
        pspReference := some ("R" ++ s.repr) }), s + 1)
  opening _ s := (.ok (), s)
  committing s := (.error (.outside "OperationalError" "disk full"), s)

/-- A gateway that times out leaves the payment as it was; an answer that cannot be recorded is told
with the reference that this very call was given. -/
theorem error_class_tells_apart :
    let attempt (kind : TransactionType) : Attempt :=
      ⟨"acc", "pay", "tx", none, kind, some (.finite false 1000 (-2)), some "EUR", []⟩
    let w : World Nat := { store := {}, outside := 7 }
    forgetful.Ordinary ∧
      (∃ e w', submit forgetful (attempt .credit) w = (.error (.business e), w') ∧
        e.retryable = true ∧ e.Tells forgetful w w') ∧
      ∃ e w', submit forgetful (attempt .authorize) w = (.error (.business e), w') ∧
        (e.details.bind (Bag.get? · "psp_reference")) = some (.text "R7") ∧
        e.retryable = false ∧ e.Tells forgetful w w' := by
  intro attempt w
  have hc : forgetful.Ordinary := by
    constructor
    case committing =>
      intro s e he
      obtain rfl := Except.error.inj he
      rfl
    all_goals
      intros
      contradiction
  have told {a : Attempt} {e : BusinessError}
      (he : (submit forgetful a w).1 = .error (.business e)) :
      submit forgetful a w = (.error (.business e), (submit forgetful a w).2) := Prod.ext he rfl
  obtain ⟨e, he, hretryable⟩ : ∃ e, (submit forgetful (attempt .credit) w).1 =
      .error (.business e) ∧ e.retryable = true := ⟨_, rfl, rfl⟩
  obtain ⟨e', he', hreference, hfinal⟩ : ∃ e, (submit forgetful (attempt .authorize) w).1 =
      .error (.business e) ∧ (e.details.bind (Bag.get? · "psp_reference")) = some (.text "R7") ∧
      e.retryable = false := ⟨_, rfl, by decide +kernel, rfl⟩
  exact ⟨hc, ⟨e, _, told he, hretryable, error_class_tells hc (told he)⟩,
    e', _, told he', hreference, hfinal, error_class_tells hc (told he')⟩

end Engine

end CardPayments
