import CardPayments.Proofs.Engine.AppendOnly
import CardPayments.Proofs.Engine.Progress

/-!
# Follow-ups act on the right authorization

A capture, a void or a refund acts on the latest successful authorization of its payment, whatever
else has been recorded of the payment since: refused attempts, other follow-ups, notifications, and
purchases that have returned to that very row and given it another reference. Without such a row,
or while the row has no reference, the follow-up is refused at once. Otherwise it makes one call
under that reference and adds one row of its own type, so that the next follow-up of the payment
acts on the same authorization.
-/

namespace CardPayments

variable {σ : Type}

/-- Whether a row is a successful authorization of a payment. -/
structure Row.Authorizes (paymentId : String) (row : Row) : Prop where
  /-- The row belongs to the payment. -/
  payment : row.record.paymentId = paymentId
  /-- An amount was to be reserved. -/
  kind : row.record.kind = .authorize ∨ row.record.kind = .purchase
  /-- It was reserved, or the shopper was sent to 3-D Secure. -/
  result : row.record.pspResult = some PspResult.authorised.code ∨
    row.record.pspResult = some PspResult.redirectShopper.code

namespace Store

/-- Whether a row has the highest number of the successful authorizations of a payment. -/
structure LastAuthorization (s : Store) (paymentId : String) (row : Row) : Prop where
  /-- The row is there. -/
  mem : row ∈ s.rows
  /-- The row is a successful authorization of the payment. -/
  authorizes : row.Authorizes paymentId
  /-- Every other one has a lower number. -/
  last : ∀ r ∈ s.rows, r.Authorizes paymentId → r.id ≤ row.id

/-- The engine looks for successful authorizations of the payment. -/
theorem authorizes_iff {paymentId : String} {row : Row} :
    row.Authorizes paymentId ↔
      (row.record.paymentId == paymentId && row.record.isSuccessfulAuthorization) = true := by
  have hkind : row.record.kind.isAuthorization = true ↔
      row.record.kind = .authorize ∨ row.record.kind = .purchase := by
    cases row.record.kind <;> decide
  simp only [ResponseRecord.isSuccessfulAuthorization, Bool.and_eq_true, Bool.or_eq_true,
    beq_iff_eq, hkind]
  constructor
  · rintro ⟨payment, kind, result⟩
    exact ⟨payment, kind, result⟩
  · rintro ⟨payment, kind, result⟩
    exact ⟨payment, kind, result⟩

/-- It finds the one with the highest number. -/
theorem latestAuthorization?_eq_some_iff {s : Store} (numbered : s.Numbered) {paymentId : String}
    {row : Row} :
    s.latestAuthorization? paymentId = some row ↔ s.LastAuthorization paymentId row := by
  unfold latestAuthorization?
  rw [latest?_eq_some_iff numbered]
  constructor
  · rintro ⟨mem, holds, last⟩
    exact ⟨mem, authorizes_iff.2 holds, fun r hr h => last r hr (authorizes_iff.1 h)⟩
  · rintro ⟨mem, authorizes, last⟩
    exact ⟨mem, authorizes_iff.1 authorizes, fun r hr h => last r hr (authorizes_iff.2 h)⟩

/-- A row of another type does not change which authorization is the last one. -/
theorem lastAuthorization_addResponse_iff {s : Store} (numbered : s.Numbered)
    {record : ResponseRecord} (hkind : record.kind.isAuthorization = false) {paymentId : String}
    {row : Row} (h : s.LastAuthorization paymentId row) (r : Row) :
    (s.addResponse record).2.LastAuthorization paymentId r ↔ r = row := by
  have hsame : (s.addResponse record).2.latestAuthorization? paymentId = some row := by
    rw [← (latestAuthorization?_eq_some_iff numbered).2 h]
    refine latest?_append_of_none rfl fun added hadded => ?_
    obtain rfl := List.mem_singleton.1 hadded
    have hnot : record.kept.isSuccessfulAuthorization = false := by
      simp only [ResponseRecord.isSuccessfulAuthorization, ResponseRecord.kept, hkind,
        Bool.false_and]
    rw [hnot, Bool.and_false]
  rw [← latestAuthorization?_eq_some_iff (numbered_addResponse numbered record), hsame]
  constructor
  · intro hr
    exact (Option.some.inj hr).symm
  · rintro rfl
    rfl

/-- What does not begin a payment modifies one. -/
theorem modeFor_of_not_initial (s : Store) {a : Attempt} (h : a.kind.isInitial = false) :
    s.modeFor a = .modification := by
  unfold modeFor CallMode.route
  rw [h]
  rfl

end Store

namespace Engine

section Works

variable {c : Collaborators σ} (hc : c.Works) {a : Attempt} {w : World σ}
include hc

/-- A follow-up that can be told makes one call under the reference of its authorization. -/
theorem ends_executeFollowUp {prior : Option ResponseRecord} {reference : String}
    (hreference : nonEmpty (prior.bind ResponseRecord.pspReference) = some reference)
    (tellable : a.Tellable a.properties) :
    ∃ account payment split response now record,
      let call := GatewayCall.followUp (followUpOperation a.kind) account payment (some reference)
        split
      (∃ s, (c.gateway call s).1 = .ok response) ∧
        ResponseRecord.ofResponse a response now = .ok record ∧
        Ends (executeFollowUp c a prior) w (TransactionInfo.ofResponse a response now)
          (w.store.addResponse record).2 [⟨call, .ok response⟩] := by
  obtain ⟨call, w₁, hcall, idle⟩ := finds_followUpCall hc tellable reference w
  obtain ⟨account, payment, split, rfl⟩ := followUpCall_ok hcall
  obtain ⟨response, now, record, hanswer, hrecord, hends⟩ := ends_conclude hc a
    (.followUp (followUpOperation a.kind) account payment (some reference) split) w₁
  rw [idle.store] at hends
  refine ⟨account, payment, split, response, now, record, hanswer, hrecord, ?_⟩
  rw [executeFollowUp_eq c a hreference]
  exact .of_bind hcall idle hends

/-- A follow-up whose amount is not finite is not told, and leaves no trace. -/
theorem ends_executeFollowUp_of_not_finite {prior : Option ResponseRecord} {reference : String}
    (hreference : nonEmpty (prior.bind ResponseRecord.pspReference) = some reference)
    (whole : ∀ key ∈ [Property.captureDelayHours, Property.installments, Property.secureThreshold],
      ∃ n, a.properties.int? key = .ok n)
    (hcurrency : a.currency.all (fun currency => isCurrencyCode (Text.toUpper currency)) = true)
    (hamount : a.amount.all Decimal.isFinite = false) :
    Ends (executeFollowUp c a prior) w
      (.error (.invalidFields [⟨.finiteNumber, [.field "amount"]⟩])) w.store [] := by
  obtain ⟨account, haccount⟩ := hc.account a.accountId w.outside
  obtain ⟨w₁, hconsult, idle₁⟩ := finds_consult haccount
  obtain ⟨w₂, hmethod, idle₂⟩ := finds_loadMethod hc a w₁
  obtain ⟨key, hkey⟩ := hc.externalKey a.paymentId a.transactionId w₂.outside
  obtain ⟨w₃, hconsult', idle₃⟩ := finds_consult hkey
  obtain ⟨info, hinfo⟩ := PaymentInfo.exists_ofProperties whole (some account)
    (w₁.store.methodFor a).token
  have hpayment : paymentData c a account (w₁.store.methodFor a) a.properties w₂ =
      (.error (.invalidFields [⟨.finiteNumber, [.field "amount"]⟩]), w₃) := by
    refine (bind_ok _ hconsult').trans ?_
    rw [hinfo]
    refine (bind_ok _ (rfl : ofOutcome (.ok info) w₃ = _)).trans ?_
    rw [PaymentData.make_of_not_finite hamount hcurrency]
    rfl
  have hcall : followUpCall c a reference w =
      (.error (.invalidFields [⟨.finiteNumber, [.field "amount"]⟩]), w₃) :=
    (bind_ok _ hconsult).trans ((bind_ok _ hmethod).trans (bind_error _ hpayment))
  rw [executeFollowUp_eq c a hreference]
  exact .of_bind_error _ hcall (idle₁.trans (idle₂.trans idle₃))

end Works

/-- An attempt that does not begin a payment is entered in the same way whichever way it is. -/
theorem enter_eq_process {c : Collaborators σ} {a : Attempt} (h : a.kind.isInitial = false)
    {enter : Engine σ TransactionInfo} (henter : enter ∈ [submit c a, process c a]) :
    enter = process c a := by
  have hsubmit : submit c a = process c a := by
    refine if_neg fun hpurchase => ?_
    rw [hpurchase] at h
    cases h
  simpa only [List.mem_cons, List.not_mem_nil, or_false, hsubmit, or_self] using henter

/-- A text that is missing or empty is none. -/
theorem nonEmpty_eq_none {o : Option String} (h : o.getD "" = "") : nonEmpty o = none := by
  cases o with
  | none => rfl
  | some s => exact if_pos h

/-- The reference that a follow-up acts on is that of the last successful authorization. -/
theorem referenceFor_of_last {s : Store} (numbered : s.Numbered) {a : Attempt} {row : Row}
    (h : s.LastAuthorization a.paymentId row) :
    s.referenceFor a = nonEmpty row.record.pspReference := by
  unfold Store.referenceFor
  rw [(Store.latestAuthorization?_eq_some_iff numbered).2 h]
  rfl

/-- Where the last successful authorization has no reference, there is none to act on; nor is there
where nothing has been authorized. -/
theorem referenceFor_of_without {s : Store} (numbered : s.Numbered) {a : Attempt}
    (h : ∀ row, s.LastAuthorization a.paymentId row → row.record.pspReference.getD "" = "") :
    s.referenceFor a = none := by
  cases hlatest : s.latestAuthorization? a.paymentId with
  | none =>
    unfold Store.referenceFor
    rw [hlatest]
    rfl
  | some row =>
    have hlast := (Store.latestAuthorization?_eq_some_iff numbered).1 hlatest
    rw [referenceFor_of_last numbered hlast]
    exact nonEmpty_eq_none (h row hlast)

/-- A follow-up without a row of its own comes down to acting on an authorization. -/
theorem process_followUp {c : Collaborators σ} (hc : c.Records) {a : Attempt}
    (follows : a.kind.isInitial = false) (checked : a.check = .ok ())
    (unflagged : a.properties.affirms Property.fromHostedPage = false) {w : World σ}
    (fresh : ∀ r ∈ w.store.rows,
      ¬ (r.record.transactionId = a.transactionId ∧ r.record.kind = a.kind)) :
    ∃ w₁, w.Idle w₁ ∧ process c a w =
      executeFollowUp c a ((w.store.latestAuthorization? a.paymentId).map Row.record) w₁ := by
  have unknown : w.store.latestOf? a.transactionId a.kind = none := by
    refine Store.latest?_eq_none_iff.2 fun r hr => ?_
    rw [Bool.and_eq_false_iff, beq_eq_false_iff_ne, beq_eq_false_iff_ne]
    exact not_and_or.1 (fresh r hr)
  obtain ⟨w₁, idle, hprocess⟩ := process_of_unknown hc checked unflagged unknown
  rw [if_pos (w.store.modeFor_of_not_initial follows)] at hprocess
  exact ⟨w₁, idle, hprocess⟩

/-- After every history, a capture, a void or a refund that passes its check, does not come from the
hosted page and has no row of its own transaction and type acts on the last successful authorization
of its payment. If there is none, or it has no reference, it is refused without a call and without a
trace. Otherwise, if the gateway can be told about it, it makes one call, under the reference that
this row bears by then, and adds one row of its own type, which leaves the last successful
authorization the same. An amount that is not finite cannot be told: then it fails without a call
and without a trace. -/
theorem followUp_acts_on_last_authorization (c₀ : Collaborators σ) {c : Collaborators σ}
    (hc : c.Works) (methods : List PaymentMethod) (outside : σ) (entries : List Entry)
    {a : Attempt} (follows : a.kind = .capture ∨ a.kind = .void ∨ a.kind = .refund)
    (checked : a.check = .ok ())
    (unflagged : a.properties.affirms Property.fromHostedPage = false)
    (whole : ∀ key ∈ [Property.captureDelayHours, Property.installments, Property.secureThreshold],
      ∃ n, a.properties.int? key = .ok n)
    (hcurrency : a.currency.all (fun currency => isCurrencyCode (Text.toUpper currency)) = true) :
    let w := history c₀ (initial methods outside) entries
    (∀ r ∈ w.store.rows, ¬ (r.record.transactionId = a.transactionId ∧ r.record.kind = a.kind)) →
      ∀ enter ∈ [submit c a, process c a],
        ((∀ row, w.store.LastAuthorization a.paymentId row →
            row.record.pspReference.getD "" = "") →
          Ends enter w (.error (.business (.missingAuthorization a.paymentId a.transactionId)))
            w.store []) ∧
        ∀ row reference, w.store.LastAuthorization a.paymentId row →
          row.record.pspReference = some reference → reference ≠ "" →
          (a.amount.all Decimal.isFinite = true →
            ∃ account payment split response now record,
              let call := GatewayCall.followUp (followUpOperation a.kind) account payment
                (some reference) split
              (∃ s, (c.gateway call s).1 = .ok response) ∧
                ResponseRecord.ofResponse a response now = .ok record ∧ record.For a ∧
                Ends enter w (TransactionInfo.ofResponse a response now)
                  (w.store.addResponse record).2 [⟨call, .ok response⟩] ∧
                ∀ r, (w.store.addResponse record).2.LastAuthorization a.paymentId r ↔ r = row) ∧
          (a.amount.all Decimal.isFinite = false →
            Ends enter w (.error (.invalidFields [⟨.finiteNumber, [.field "amount"]⟩]))
              w.store []) := by
  intro w fresh enter henter
  have hinitial : a.kind.isInitial = false := by
    rcases follows with hkind | hkind | hkind <;> rw [hkind] <;> rfl
  have hreserves : a.kind.isAuthorization = false := by
    rcases follows with hkind | hkind | hkind <;> rw [hkind] <;> rfl
  have numbered : w.store.Numbered :=
    (sequenced_history c₀ (sequenced_initial methods outside) entries).rows
  rw [enter_eq_process hinitial henter]
  obtain ⟨w₁, idle, hprocess⟩ := process_followUp hc.toRecords hinitial checked unflagged fresh
  constructor
  · intro without
    rw [executeFollowUp_of_none c a (referenceFor_of_without numbered without)] at hprocess
    exact ⟨w₁, hprocess, idle.becomes⟩
  · intro row reference hlast hreference hne
    have hprior : w.store.referenceFor a = some reference := by
      rw [referenceFor_of_last numbered hlast, hreference]
      exact if_neg hne
    constructor
    · intro hamount
      obtain ⟨account, payment, split, response, now, record, hanswer, hrecord, hends⟩ :=
        ends_executeFollowUp hc (w := w₁) hprior ⟨whole, hamount, hcurrency⟩
      have hfor := ResponseRecord.for_of_ofResponse hrecord
      rw [idle.store] at hends
      refine ⟨account, payment, split, response, now, record, hanswer, hrecord, hfor,
        .of_eq hprocess idle hends, ?_⟩
      have hkind : record.kind.isAuthorization = false := by rw [hfor.kind, hreserves]
      exact Store.lastAuthorization_addResponse_iff numbered hkind hlast
    · intro hamount
      have hends := ends_executeFollowUp_of_not_finite hc (w := w₁) hprior whole hcurrency hamount
      rw [idle.store] at hends
      exact .of_eq hprocess idle hends

/-- A purchase without a reference cannot be captured until it has returned to its row with one. -/
theorem followUp_acts_on_last_authorization_late :
    let c := Collaborators.steady ⟨63850161600000000, some 0⟩
      (.ok (.purchase { result := some .authorised }))
    let p : Attempt :=
      ⟨"acc", "pay", "tx", none, .purchase, some (.finite false 1000 (-2)), some "EUR", []⟩
    let again : Attempt := { p with properties := [(Property.pspReference, .text "late")] }
    let capture : Attempt := { p with kind := .capture, transactionId := "next" }
    let v := history c (initial [] ()) [.request (.payment p)]
    let w := history c (initial [] ()) [.request (.payment p), .request (.payment again)]
    Ends (submit c capture) v (.error (.business (.missingAuthorization "pay" "next"))) v.store [] ∧
      ∃ account payment split response r store, Ends (submit c capture) w r store
        [⟨.followUp .capture account payment (some "late") split, .ok response⟩] := by
  intro c p again capture v w
  have works : c.Works := Collaborators.works_steady rfl rfl
  have whole : ∀ key ∈ [Property.captureDelayHours, Property.installments,
      Property.secureThreshold], ∃ n, capture.properties.int? key = .ok n := fun _ _ => ⟨none, rfl⟩
  have numbered : ∀ entries, (history c (initial [] ()) entries).store.Numbered := fun entries =>
    (sequenced_history c (sequenced_initial [] ()) entries).rows
  constructor
  · obtain ⟨hrefused, -⟩ := followUp_acts_on_last_authorization c works [] ()
      [.request (.payment p)] (a := capture) (Or.inl rfl) rfl rfl whole (by decide +kernel)
      (by decide +kernel) (submit c capture) List.mem_cons_self
    refine hrefused fun row hlast => ?_
    have hreference : (v.store.latestAuthorization? "pay").map
        (fun row => row.record.pspReference) = some none := by decide +kernel
    rw [(Store.latestAuthorization?_eq_some_iff (numbered _)).2 hlast] at hreference
    have hnone : row.record.pspReference = none := Option.some.inj hreference
    rw [hnone]
    rfl
  · obtain ⟨-, hacts⟩ := followUp_acts_on_last_authorization c works [] ()
      [.request (.payment p), .request (.payment again)] (a := capture) (Or.inl rfl) rfl rfl whole
      (by decide +kernel) (by decide +kernel) (submit c capture) List.mem_cons_self
    obtain ⟨row, hlatest, hreference⟩ : ∃ row, w.store.latestAuthorization? "pay" = some row ∧
        row.record.pspReference = some "late" := by
      have hfound : (w.store.latestAuthorization? "pay").map
          (fun row => row.record.pspReference) = some (some "late") := by decide +kernel
      exact Option.map_eq_some_iff.1 hfound
    obtain ⟨hcalls, -⟩ := hacts row "late"
      ((Store.latestAuthorization?_eq_some_iff (numbered _)).1 hlatest) hreference (by decide)
    obtain ⟨account, payment, split, response, now, record, -, -, -, hends, -⟩ := hcalls rfl
    exact ⟨account, payment, split, response, _, _, hends⟩

/-- An authorized payment is not captured over an infinite amount, which passes the check of the
attempt but cannot be told. -/
theorem followUp_needs_finite_amount :
    let c := Collaborators.steady ⟨63850161600000000, some 0⟩
      (.ok (.purchase { result := some .authorised, pspReference := some "A" }))
    let a : Attempt :=
      ⟨"acc", "pay", "tx", none, .authorize, some (.finite false 1000 (-2)), some "EUR", []⟩
    let capture : Attempt :=
      { a with kind := .capture, transactionId := "next", amount := some (.infinite false) }
    let w := history c (initial [] ()) [.request (.payment a)]
    c.Works ∧ capture.check = .ok () ∧
      capture.properties.affirms Property.fromHostedPage = false ∧
      (w.store.latestAuthorization? "pay").map (fun row => row.record.pspReference) =
        some (some "A") ∧
      (w.store.latestOf? "next" .capture).isNone = true ∧
      (submit c capture w).1.isOk = false ∧ (submit c capture w).2.calls.length = 1 ∧
      (submit c capture w).2.store.rows.length = 1 ∧ w.calls.length = 1 := by
  intro c a capture w
  refine ⟨Collaborators.works_steady rfl rfl, rfl, ?_⟩
  decide +kernel

end Engine

end CardPayments
