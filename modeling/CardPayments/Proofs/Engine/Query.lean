import CardPayments.Proofs.Engine.Effect
import CardPayments.Proofs.Engine.Progress
import CardPayments.Proofs.Readable

/-!
# Queries

A query tells what every row of a payment says, oldest first, or fails at the first row that cannot
be told. A row is written with properties that nobody has looked into: those of a transaction from
the hosted page, those of a purchase that returns to it, those of an answer. As long as these hold
no name that stands for nothing, every row of every history can be told. A transaction that brings
such a name is recorded before its status is read, and then no query of its payment succeeds.
-/

namespace CardPayments

variable {σ α β : Type}

/-- Whether every answer of the gateway leaves a readable record. -/
def Collaborators.AnswersReadably (c : Collaborators σ) : Prop :=
  ∀ call outside response, (c.gateway call outside).1 = .ok response → response.Readable

/-- Whether the properties of an entry that reach a row unread are readable: those of a transaction
from the hosted page, and those of a purchase, which may return to a row. -/
def Entry.Readable : Entry → Prop
  | .request (.payment a) =>
    a.kind = .purchase ∨ a.properties.affirms Property.fromHostedPage = true →
      a.properties.Readable
  | .attempt a => a.properties.affirms Property.fromHostedPage = true → a.properties.Readable
  | .request _ => True

/-- The delay of a capture is neither a status nor a technical failure. -/
theorem Bag.Readable.withCaptureDelay {a : Attempt} (h : a.properties.Readable) :
    (Engine.withCaptureDelay a).properties.Readable :=
  ⟨h.status.putNew_of_ne (by decide) _, h.failure.putNew_of_ne (by decide) _⟩

/-- A transaction from the hosted page is recorded with readable properties. -/
theorem Entry.Readable.carried {entry : Entry} (h : entry.Readable) {a : Attempt}
    (carries : entry.carried? = some a)
    (flagged : a.properties.affirms Property.fromHostedPage = true) : a.properties.Readable := by
  cases entry with
  | attempt a' =>
    obtain rfl := Option.some.inj carries
    exact h flagged
  | request request =>
    cases request with
    | payment a' =>
      obtain rfl := Option.some.inj carries
      rw [Engine.affirms_carried] at flagged
      have hreadable : a'.properties.Readable := h (Or.inr flagged)
      unfold Engine.carried
      split
      · exact hreadable.withCaptureDelay
      · exact hreadable
    | notification text => cases carries
    | form accountId custom properties => cases carries
    | query paymentId => cases carries

/-- Properties that are readable make a readable notification. -/
theorem Bag.Readable.notification {properties : Bag} (h : properties.Readable) :
    (GatewayResponse.notification properties).Readable := ⟨trivial, h.status, fun _ => h.failure⟩

namespace NotificationItem

/-- Whatever else an item brings, the status of its record is its own. -/
theorem namesStatus_properties (item : NotificationItem) : item.properties.NamesStatus := by
  have hoptional : Bag.Every item.optionalProperties Property.hostedPageStatus
      Value.NamesStatus := by
    intro entry hentry hkey
    have hname : entry.1 ∈ optionalNames := item.optional_names (List.mem_map_of_mem hentry)
    rw [hkey] at hname
    exact absurd hname (by decide)
  have hfixed : Bag.Every item.fixedProperties Property.hostedPageStatus Value.NamesStatus := by
    intro entry hentry hkey
    simp only [fixedProperties, List.mem_cons, List.not_mem_nil, or_false] at hentry
    rcases hentry with rfl | rfl | rfl | rfl | rfl
    · exact absurd hkey (by decide : Property.fromHostedPage ≠ Property.hostedPageStatus)
    · exact Value.namesStatus_name item.status
    · exact absurd hkey (by decide : Property.pspResult ≠ Property.hostedPageStatus)
    · exact absurd hkey (by decide : Property.eventCode ≠ Property.hostedPageStatus)
    · exact absurd hkey (by decide : Property.success ≠ Property.hostedPageStatus)
  apply hoptional.onto
  intro _
  apply hfixed.onto
  intro hmissing
  cases hmissing

/-- The record of an item is readable. -/
theorem readable_notification (item : NotificationItem) :
    (GatewayResponse.notification item.properties).Readable := by
  refine ⟨trivial, item.namesStatus_properties, fun hresult => ?_⟩
  rw [item.text?_pspResult] at hresult
  exact absurd hresult item.result.code_ne_empty

end NotificationItem

/-- Whether every row of a store can be read. -/
def Store.Readable (s : Store) : Prop := ∀ row ∈ s.rows, row.Readable

namespace Store.Readable

variable {s t : Store}

theorem addResponse (h : s.Readable) {a : Attempt} {response : GatewayResponse} {now : Moment}
    {record : ResponseRecord} (made : ResponseRecord.ofResponse a response now = .ok record)
    (readable : response.Readable) : (s.addResponse record).2.Readable := by
  intro row hrow
  rcases List.mem_append.1 hrow with hold | hnew
  · exact h row hold
  · obtain rfl := List.mem_singleton.1 hnew
    exact .of_ofResponse _ made readable

theorem updateResponse (h : s.Readable) (transactionId : String) {properties : Bag}
    (readable : properties.Readable) :
    (s.updateResponse transactionId properties).2.Readable := by
  unfold Store.updateResponse
  split
  · rename_i latest hlatest
    intro row hrow
    obtain ⟨old, hold, rfl⟩ := List.mem_map.1 hrow
    split
    · exact (h latest (Store.mem_of_latest? hlatest)).merge readable
    · exact h old hold
  · exact h

/-- Items leave readable rows. -/
theorem takesAll {items : List NotificationItem} (h : s.Readable) (takes : s.TakesAll items t) :
    t.Readable := by
  induction takes with
  | nil => exact h
  | cons first rest ih =>
    apply ih
    cases first with
    | passed known => exact h
    | added missing made =>
      have hattempt := Store.attempt?_of_missing? missing
      obtain ⟨kind, found, -, -, rfl⟩ := Store.exists_of_attempt? hattempt
      exact h.addResponse made (NotificationItem.readable_notification _)

end Store.Readable

/-- A readable entry leaves readable rows, if the answers of the gateway are readable. -/
theorem Entry.Makes.readable {c : Collaborators σ} {s t : Store} {entry : Entry}
    (h : entry.Makes c s t) (answers : c.AnswersReadably) (hentry : entry.Readable)
    (hs : s.Readable) : t.Readable := by
  cases h with
  | nothing => exact hs
  | merged purchase => exact hs.updateResponse _ (hentry (Or.inl purchase))
  | noted carries flagged made =>
    exact hs.addResponse made (hentry.carried carries flagged).notification
  | answered carries answer made =>
    obtain ⟨outside, hanswer⟩ := answer
    exact hs.addResponse made (answers _ _ _ hanswer)
  | taken decoded part takes => exact hs.takesAll takes
  | filed => exact hs

/-- Readable rows are all told. -/
theorem Store.exists_told {rows : List Row} (h : ∀ row ∈ rows, row.Readable) :
    ∃ infos, List.Forall₂ (fun row info => TransactionInfo.ofRecord row.record = .ok info) rows
      infos := by
  induction rows with
  | nil => exact ⟨[], .nil⟩
  | cons row rows ih =>
    obtain ⟨info, hinfo⟩ := (h row List.mem_cons_self).exists_ofRecord
    obtain ⟨infos, hinfos⟩ := ih fun r hr => h r (List.mem_cons_of_mem _ hr)
    exact ⟨info :: infos, .cons hinfo hinfos⟩

namespace Engine

/-- Outcomes that do not touch the world are gathered without it. -/
theorem mapM_ofOutcome (f : α → Outcome β) (as : List α) (w : World σ) :
    (as.mapM fun a => (ofOutcome (f a) : Engine σ β)) w = (as.mapM f, w) := by
  induction as with
  | nil => rfl
  | cons a as ih =>
    rw [List.mapM_cons, List.mapM_cons]
    cases ha : f a with
    | error e =>
      rw [bind_error _ (rfl : ofOutcome (.error e) w = (.error e, w))]
      rfl
    | ok b =>
      rw [bind_ok _ (rfl : ofOutcome (.ok b) w = (.ok b, w))]
      cases has : as.mapM f with
      | error e =>
        rw [has] at ih
        rw [bind_error _ ih]
        rfl
      | ok bs =>
        rw [has] at ih
        rw [bind_ok _ ih]
        rfl

/-- A query tells what the rows of the payment say, in their order, or fails as the first that
cannot be told. -/
theorem paymentInfo_eq {c : Collaborators σ} (opening : ∀ s, (c.opening .reading s).1 = .ok ())
    (paymentId : String) (w : World σ) :
    ∃ w', w.Idle w' ∧ paymentInfo c paymentId w =
      ((w.store.ofPayment paymentId).mapM fun row => TransactionInfo.ofRecord row.record, w') := by
  obtain ⟨w', hread, idle⟩ := (finds_readStore_of_opening opening
    (·.ofPayment paymentId) w).rephrase (storeFault "get_responses")
  refine ⟨w', idle, ?_⟩
  unfold paymentInfo read
  rw [bind_ok _ hread]
  exact mapM_ofOutcome (fun row : Row => TransactionInfo.ofRecord row.record) _ w'

/-- A query finds exactly what every row of the payment tells, if all of them can be told. -/
theorem finds_paymentInfo_iff {c : Collaborators σ}
    (opening : ∀ s, (c.opening .reading s).1 = .ok ()) (w : World σ) (paymentId : String)
    (infos : List TransactionInfo) :
    Finds (paymentInfo c paymentId) w infos ↔
      List.Forall₂ (fun row info => TransactionInfo.ofRecord row.record = .ok info)
        (w.store.ofPayment paymentId) infos := by
  obtain ⟨w', idle, hquery⟩ := paymentInfo_eq opening paymentId w
  rw [← mapM_eq_ok_iff]
  constructor
  · rintro ⟨w₁, hfound, -⟩
    exact (Prod.mk.inj (hquery.symm.trans hfound)).1
  · intro hall
    exact ⟨w', hquery.trans (by rw [hall]), idle⟩

/-- Readable entries leave readable rows. -/
theorem readable_history {c : Collaborators σ} (answers : c.AnswersReadably) {w : World σ}
    (h : w.store.Readable) {entries : List Entry} (readable : ∀ entry ∈ entries, entry.Readable) :
    (history c w entries).store.Readable :=
  history_induction c (P := Store.Readable)
    (fun entry hentry _ _ makes hs => makes.readable answers (readable entry hentry) hs) h

/-- After every history, a query that can look into the store finds what the rows of its payment
tell, one thing of each in the order of writing, and finds something only if every one of them can
be told. All of them can be told if the entries of the history and the answers of the gateway are
readable, however the entries have ended and whatever else they bring. -/
theorem query_tells_every_row (c : Collaborators σ) {c' : Collaborators σ}
    (opening : ∀ s, (c'.opening .reading s).1 = .ok ()) (methods : List PaymentMethod)
    (outside : σ) (entries : List Entry) :
    let w := history c (initial methods outside) entries
    (∀ paymentId infos, Finds (paymentInfo c' paymentId) w infos ↔
        List.Forall₂ (fun row info => TransactionInfo.ofRecord row.record = .ok info)
          (w.store.ofPayment paymentId) infos) ∧
      (c.AnswersReadably → (∀ entry ∈ entries, entry.Readable) →
        ∀ paymentId, ∃ infos, Finds (paymentInfo c' paymentId) w infos) := by
  intro w
  constructor
  · exact finds_paymentInfo_iff opening w
  · intro answers readable paymentId
    have start : (initial methods outside).store.Readable :=
      fun row hrow => absurd hrow List.not_mem_nil
    have hstore : w.store.Readable := readable_history answers start readable
    have hrows : ∀ row ∈ w.store.ofPayment paymentId, row.Readable :=
      fun row hrow => hstore row (List.mem_of_mem_filter hrow)
    obtain ⟨infos, htold⟩ := Store.exists_told hrows
    exact ⟨infos, (finds_paymentInfo_iff opening w paymentId infos).2 htold⟩

/-- A transaction from the hosted page and a purchase that returns to its row are told, with the
statuses that they bring. -/
theorem query_tells_every_row_returned :
    let c := Collaborators.steady ⟨63850161600000000, some 0⟩
      (.ok (.purchase { result := some .authorised }))
    let a : Attempt :=
      ⟨"acc", "pay", "tx", none, .purchase, some (.finite false 1000 (-2)), some "EUR",
        [(Property.fromHostedPage, .text "true"), (Property.hostedPageStatus, .text " pending ")]⟩
    let b : Attempt := { a with transactionId := "other", properties := [] }
    let again : Attempt := { a with properties := [(Property.hostedPageStatus, .text "processed")] }
    let w := history c (initial [] ())
      [.request (.payment a), .request (.payment b), .request (.payment again)]
    ∃ infos, Finds (paymentInfo c "pay") w infos ∧ infos.length = 2 := by
  intro c a b again w
  have answers : c.AnswersReadably := by
    intro call outside response hanswer
    obtain rfl := Except.ok.inj hanswer
    decide
  have opening : ∀ s, (c.opening .reading s).1 = .ok () := fun _ => rfl
  obtain ⟨hiff, hfinds⟩ := query_tells_every_row c opening [] ()
    [.request (.payment a), .request (.payment b), .request (.payment again)]
  obtain ⟨infos, hinfos⟩ := hfinds answers (by
    intro entry hentry
    simp only [List.mem_cons, List.not_mem_nil, or_false] at hentry
    rcases hentry with rfl | rfl | rfl <;> exact fun _ => by decide +kernel) "pay"
  have hlength : (w.store.ofPayment "pay").length = 2 := by decide +kernel
  refine ⟨infos, hinfos, ?_⟩
  rw [← ((hiff "pay" infos).1 hinfos).length_eq]
  exact hlength

/-- A transaction from the hosted page with a status that is none is recorded, then fails, and from
then on every query of its payment fails; and a purchase that returns to a good row with such a
status spoils that row. -/
theorem query_fails_on_committed_row :
    let c := Collaborators.steady ⟨63850161600000000, some 0⟩
      (.ok (.purchase { result := some .authorised }))
    let a : Attempt :=
      ⟨"acc", "pay", "tx", none, .authorize, some (.finite false 1000 (-2)), some "EUR",
        [(Property.fromHostedPage, .text "true"), (Property.hostedPageStatus, .text "BOGUS")]⟩
    let p : Attempt := { a with kind := .purchase, properties := [] }
    let again : Attempt := { p with properties := [(Property.hostedPageStatus, .text "BOGUS")] }
    let noted := history c (initial [] ()) [.request (.payment a)]
    let good := history c (initial [] ()) [.request (.payment p)]
    let spoilt := history c (initial [] ()) [.request (.payment p), .request (.payment again)]
    (submit c a (initial [] ())).1.isOk = false ∧ (noted.store.ofPayment "pay").length = 1 ∧
      (paymentInfo c "pay" noted).1.isOk = false ∧ (paymentInfo c "pay" good).1.isOk = true ∧
      (paymentInfo c "pay" spoilt).1.isOk = false := by
  decide +kernel

end Engine

end CardPayments
