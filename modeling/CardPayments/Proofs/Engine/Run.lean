import CardPayments.Proofs.Engine.HostedForm

/-!
# Runs

A run serves one request after another. How a request ends does not matter: the world goes on from
wherever the request has left it. Whatever the collaborators do, the numbers of the rows keep
growing along a run, and the ledger never loses an entry.
-/

namespace CardPayments

/-- What the engine is asked for. -/
inductive Request where
  /-- A transaction. -/
  | payment (a : Attempt)
  /-- A batch of notifications. -/
  | notification (text : String)
  /-- A form for the hosted page. -/
  | form (accountId : String) (custom properties : Bag)
  /-- Everything recorded of a payment. -/
  | query (paymentId : String)

namespace Engine

variable {σ : Type}

/-- The world after a request. -/
def serve (c : Collaborators σ) (w : World σ) : Request → World σ
  | .payment a => (submit c a w).2
  | .notification text => (takeNotification c text w).2
  | .form accountId custom properties => (form c accountId custom properties w).2
  | .query paymentId => (paymentInfo c paymentId w).2

/-- The world after several requests, first to last. -/
def run (c : Collaborators σ) (w : World σ) (requests : List Request) : World σ :=
  requests.foldl (serve c) w

/-- The world before the first request: nothing is recorded and nothing has been asked. -/
def initial (methods : List PaymentMethod) (outside : σ) : World σ :=
  { store := { methods }, outside }

theorem numbered_initial (methods : List PaymentMethod) (outside : σ) :
    (initial methods outside).store.Numbered := List.Pairwise.nil

/-- An attempt that takes one of the courses loses no row. -/
theorem extends_of_course {c : Collaborators σ} {a : Attempt} {w w' : World σ}
    {r : Outcome TransactionInfo} (h : Course c a w r w') : w.store.Extends w'.store := by
  cases h with
  | refused idle early => exact idle.grows.store
  | replayed unflagged known idle => exact idle.grows.store
  | noted flagged made becomes => exact (becomes.grows (.addResponse _ _)).store
  | failed due failure becomes =>
    rw [becomes.store]
    exact .refl _
  | lost due answer late becomes =>
    rw [becomes.store]
    exact .refl _
  | recorded due answer made becomes =>
    rw [becomes.store]
    exact .addResponse _ _

/-- No request loses a row. -/
theorem extends_serve (c : Collaborators σ) (w : World σ) (request : Request) :
    w.store.Extends (serve c w request).store := by
  cases request with
  | payment a =>
    rcases h : submit c a w with ⟨r, w'⟩
    have hserve : serve c w (.payment a) = w' := congrArg Prod.snd h
    rw [hserve]
    rcases submit_cases h with ⟨row, _, _, becomes, _⟩ | course
    · rw [becomes.store]
      exact .updateResponse _ _ _
    · exact extends_of_course course
  | notification text => exact (grows_takeNotification c text w).store
  | form accountId custom properties => exact (grows_form c accountId custom properties w).store
  | query paymentId => exact ((quiet_paymentInfo c paymentId).grows w).store

/-- What every request keeps holds all along a run. -/
theorem run_induction (c : Collaborators σ) {P : World σ → Prop}
    (step : ∀ w request, P w → P (serve c w request)) {w : World σ} (h : P w)
    (requests : List Request) : P (run c w requests) := by
  induction requests generalizing w with
  | nil => exact h
  | cons request requests ih => exact ih (step w request h)

/-- No run loses a row. -/
theorem extends_run (c : Collaborators σ) (w : World σ) (requests : List Request) :
    w.store.Extends (run c w requests).store :=
  run_induction c (P := fun w' => w.store.Extends w'.store)
    (fun w' request h => h.trans (extends_serve c w' request)) (.refl w.store) requests

/-- The numbers of the rows grow all along a run. -/
theorem numbered_run (c : Collaborators σ) {w : World σ} (h : w.store.Numbered)
    (requests : List Request) : (run c w requests).store.Numbered :=
  (extends_run c w requests).numbered h

end Engine

end CardPayments
