import CardPayments.Proofs.Engine.Run
import CardPayments.Proofs.Notification.Delivery

/-!
# What an entry makes of the store

The engine is entered with a request, or with an attempt that is carried out as it is. However that
ends, it leaves the store as it was or makes one change of it, and the kind of entry settles which
change that can be. What every such change keeps, every history keeps.
-/

namespace CardPayments

/-- What the engine is entered with. -/
inductive Entry where
  /-- A request. -/
  | request (r : Request)
  /-- An attempt that is carried out as it is, also when it is a purchase. -/
  | attempt (a : Attempt)

/-- The attempt that is carried out, if one is. -/
def Entry.carried? : Entry → Option Attempt
  | .request (.payment a) => some (Engine.carried a)
  | .attempt a => some a
  | _ => none

/-- What an entry makes of a store. -/
inductive Entry.Makes {σ : Type} (c : Collaborators σ) (s : Store) : Entry → Store → Prop
  /-- Nothing comes of it. -/
  | nothing {entry} : Makes c s entry s
  /-- A purchase returns to its row, if it has one. -/
  | merged {a} (purchase : a.kind = .purchase) :
      Makes c s (.request (.payment a)) (s.updateResponse a.transactionId a.properties).2
  /-- A transaction from the hosted page is recorded without a call. -/
  | noted {entry a now record} (carries : entry.carried? = some a)
      (flagged : a.properties.affirms Property.fromHostedPage = true)
      (made : ResponseRecord.ofResponse a (.notification a.properties) now = .ok record) :
      Makes c s entry (s.addResponse record).2
  /-- An answer of the gateway is recorded. -/
  | answered {entry a call response now record} (carries : entry.carried? = some a)
      (answer : ∃ outside, (c.gateway call outside).1 = .ok response)
      (made : ResponseRecord.ofResponse a response now = .ok record) :
      Makes c s entry (s.addResponse record).2
  /-- The items of a batch are taken in, all of them or the first of them. -/
  | taken {text items taken t} (decoded : NotificationBatch.decode text = .ok items)
      (part : taken <+: items) (takes : s.TakesAll taken t) :
      Makes c s (.request (.notification text)) t
  /-- A request of the hosted page is filed. -/
  | filed {accountId custom properties request} :
      Makes c s (.request (.form accountId custom properties)) (s.addRequest request).2

namespace Engine

variable {σ : Type}

/-- The world after an entry. -/
def enter (c : Collaborators σ) (w : World σ) : Entry → World σ
  | .request r => serve c w r
  | .attempt a => (process c a w).2

/-- The world after several entries, first to last. -/
def history (c : Collaborators σ) (w : World σ) (entries : List Entry) : World σ :=
  entries.foldl (enter c) w

/-- An attempt that takes one of the courses returns to no row, but may add one. -/
theorem makes_of_course {c : Collaborators σ} {entry : Entry} {a : Attempt} {w w' : World σ}
    {r : Outcome TransactionInfo} (carries : entry.carried? = some a) (h : Course c a w r w') :
    entry.Makes c w.store w'.store := by
  cases h with
  | refused idle early =>
    rw [idle.store]
    exact .nothing
  | replayed unflagged known idle =>
    rw [idle.store]
    exact .nothing
  | noted flagged made becomes =>
    rw [becomes.store]
    exact .noted carries flagged made
  | failed due failure becomes =>
    rw [becomes.store]
    exact .nothing
  | lost due answer late becomes =>
    rw [becomes.store]
    exact .nothing
  | recorded due answer made becomes =>
    rw [becomes.store]
    exact .answered carries answer made

theorem makes_payment (c : Collaborators σ) (w : World σ) (a : Attempt) :
    (Entry.request (.payment a)).Makes c w.store (submit c a w).2.store := by
  rcases h : submit c a w with ⟨r, w'⟩
  obtain ⟨row, purchase, -, becomes, -⟩ | course := submit_cases h
  · rw [becomes.store]
    exact .merged purchase
  · exact makes_of_course rfl course

theorem makes_notification (c : Collaborators σ) (w : World σ) (text : String) :
    (Entry.request (.notification text)).Makes c w.store (takeNotification c text w).2.store := by
  cases decoded : NotificationBatch.decode text with
  | error e =>
    have hnothing : takeNotification c text w = (.error e, w) := by
      unfold takeNotification
      rw [decoded]
      exact bind_error _ rfl
    rw [hnothing]
    exact .nothing
  | ok items =>
    obtain ⟨taken, part, takes, -⟩ :=
      takesAll_of_takeNotification decoded (rfl : takeNotification c text w = (_, _))
    exact .taken decoded part takes

theorem makes_form (c : Collaborators σ) (w : World σ) (accountId : String)
    (custom properties : Bag) :
    (Entry.request (.form accountId custom properties)).Makes c w.store
      (form c accountId custom properties w).2.store := by
  obtain ⟨-, hstore | ⟨request, hstore⟩⟩ := files_form c accountId custom properties w
  · rw [hstore]
    exact .nothing
  · rw [hstore]
    exact .filed

/-- Every entry makes one of these changes. -/
theorem makes_enter (c : Collaborators σ) (w : World σ) (entry : Entry) :
    entry.Makes c w.store (enter c w entry).store := by
  cases entry with
  | attempt a => exact makes_of_course rfl (course_of_process rfl)
  | request request =>
    cases request with
    | payment a => exact makes_payment c w a
    | notification text => exact makes_notification c w text
    | form accountId custom properties => exact makes_form c w accountId custom properties
    | query paymentId =>
      have hstore : (enter c w (.request (.query paymentId))).store = w.store :=
        (quiet_paymentInfo c paymentId w).store
      rw [hstore]
      exact .nothing

/-- What every change keeps holds all along a history. -/
theorem history_induction (c : Collaborators σ) {P : Store → Prop} {entries : List Entry}
    (step : ∀ entry ∈ entries, ∀ s t, entry.Makes c s t → P s → P t) {w : World σ}
    (h : P w.store) : P (history c w entries).store := by
  induction entries generalizing w with
  | nil => exact h
  | cons entry entries ih =>
    have hfirst := step entry List.mem_cons_self _ _ (makes_enter c w entry) h
    exact ih (fun next hnext => step next (List.mem_cons_of_mem _ hnext)) hfirst

end Engine

end CardPayments
