import CardPayments.Proofs.Engine.Run
import CardPayments.Proofs.Record

/-!
# At most one call

A recorded transaction is answered from its row, so the gateway is called for it once. Only rows
that send the shopper to 3-D Secure allow for more: every one of them stands for one further call.
The balance of both is kept by every request, whether it succeeds or fails, and so by every run.
-/

namespace CardPayments

variable {σ : Type}

/-- The business result of a row that waits for the shopper. -/
def awaitsShopper : Option String := some PspResult.redirectShopper.code

/-- A transaction is served once more exactly when it resumes 3-D Secure and its row waits. -/
theorem CallMode.awaitsSecure_iff {mode : CallMode} {existing : ResponseRecord} :
    awaitsSecure mode existing = true ↔
      mode = .secureContinuation ∧ existing.pspResult = awaitsShopper := by
  rw [awaitsSecure, Bool.and_eq_true_iff, beq_iff_eq, beq_iff_eq]
  rfl

/-- The row for which a call is due waits for the shopper. -/
theorem Due.waits {s : Store} {a : Attempt} {call : GatewayCall} (h : Due s a call) {row : Row}
    (hrow : s.latestOf? a.transactionId a.kind = some row) :
    row.record.pspResult = awaitsShopper :=
  (CallMode.awaitsSecure_iff.1 (h.awaited row hrow)).2

/-- Whether a call of a request may be one for a transaction and type. The calls of a payment are
for its own; anything else might be for any. -/
def Request.mayCallFor (transactionId : String) (kind : TransactionType) : Request → Bool
  | .payment a => a.transactionId == transactionId && a.kind == kind
  | _ => true

namespace Engine

/-- The calls for a transaction and type that one request has made and recorded. A request that has
added a row has recorded whatever it has called. -/
def recordedBy (transactionId : String) (kind : TransactionType) (request : Request)
    (w w' : World σ) : Nat :=
  if request.mayCallFor transactionId kind ∧ w.store.rows.length < w'.store.rows.length then
    w'.calls.length - w.calls.length
  else 0

/-- The calls for a transaction and type that have been made and recorded along a run. -/
def recordedCalls (c : Collaborators σ) (transactionId : String) (kind : TransactionType) :
    World σ → List Request → Nat
  | _, [] => 0
  | w, request :: requests =>
    recordedBy transactionId kind request w (serve c w request) +
      recordedCalls c transactionId kind (serve c w request) requests

/-! ## The balance -/

/-- The balance of recorded calls and business results of a transaction and type: no call without a
row, and at most one call more than rows that wait for the shopper, of which the last one does not
count as long as the shopper is away. -/
structure Balanced (calls : Nat) (results : List (Option String)) : Prop where
  /-- Nothing is recorded yet. -/
  first : results = [] → calls = 0
  /-- The rows that wait make up for all calls but one. -/
  bound : calls + (if results.getLast? = some awaitsShopper then 1 else 0) ≤
    1 + results.count awaitsShopper

theorem Balanced.nil : Balanced 0 [] := ⟨fun _ => rfl, Nat.zero_le 1⟩

/-- Further rows do not upset the balance. -/
theorem Balanced.grow {calls : Nat} {results later : List (Option String)}
    (h : Balanced calls results) (hgrown : results <+: later) : Balanced calls later := by
  obtain ⟨added, rfl⟩ := hgrown
  refine ⟨fun hnil => h.first (List.append_eq_nil_iff.1 hnil).1, ?_⟩
  have hbound := h.bound
  rw [List.count_append, List.getLast?_append]
  rcases hadded : added.getLast? with _ | last
  · rw [List.getLast?_eq_none_iff.1 hadded, Option.none_or, List.count_nil]
    exact hbound
  · rw [Option.some_or]
    by_cases hlast : last = awaitsShopper
    · have hmem : awaitsShopper ∈ added := hlast ▸ List.mem_of_getLast? hadded
      have hpos := List.count_pos_iff.2 hmem
      rw [if_pos (congrArg some hlast)]
      omega
    · rw [if_neg fun heq => hlast (Option.some.inj heq)]
      omega

/-- One further call is balanced where nothing is recorded yet or the shopper is awaited. -/
theorem Balanced.call {calls : Nat} {results : List (Option String)} (h : Balanced calls results)
    (due : ∀ last, results.getLast? = some last → last = awaitsShopper) (result : Option String) :
    Balanced (calls + 1) (results ++ [result]) := by
  refine ⟨fun hnil => absurd (List.append_eq_nil_iff.1 hnil).2 (List.cons_ne_nil _ _), ?_⟩
  -- The shopper comes back to the last row, or nothing has been called so far.
  have hpaid : calls ≤ results.count awaitsShopper := by
    rcases hlast : results.getLast? with _ | last
    · rw [h.first (List.getLast?_eq_none_iff.1 hlast)]
      exact Nat.zero_le _
    · have hbound := h.bound
      rw [hlast, due last hlast, if_pos rfl] at hbound
      omega
  rw [List.count_append, List.getLast?_append, List.getLast?_singleton, Option.some_or]
  by_cases hresult : result = awaitsShopper
  · rw [if_pos (congrArg some hresult), hresult, List.count_singleton_self]
    omega
  · rw [if_neg fun heq => hresult (Option.some.inj heq)]
    omega

/-! ## One request -/

theorem recordedBy_of_calls {transactionId : String} {kind : TransactionType} {request : Request}
    {w w' : World σ} (h : w'.calls = w.calls) :
    recordedBy transactionId kind request w w' = 0 := by
  unfold recordedBy
  rw [h, Nat.sub_self, ite_self]

theorem recordedBy_of_store {transactionId : String} {kind : TransactionType} {request : Request}
    {w w' : World σ} (h : w'.store = w.store) :
    recordedBy transactionId kind request w w' = 0 := by
  unfold recordedBy
  rw [h, if_neg fun hlt => Nat.lt_irrefl _ hlt.2]

/-- A row that allows for a call waits for the shopper. -/
theorem awaitsShopper_of_due {s : Store} {a : Attempt} {call : GatewayCall} (h : Due s a call)
    (last : Option String) (hlast : (s.results a.transactionId a.kind).getLast? = some last) :
    last = awaitsShopper := by
  rw [Store.getLast?_results] at hlast
  obtain ⟨row, hrow, rfl⟩ := Option.map_eq_some_iff.1 hlast
  exact h.waits hrow

/-- What makes no call and loses no row keeps the balance. -/
theorem balanced_of_grows {transactionId : String} {kind : TransactionType} {calls : Nat}
    {w w' : World σ} (numbered : w.store.Numbered) (h : w.Grows w') (request : Request)
    (balanced : Balanced calls (w.store.results transactionId kind)) :
    Balanced (calls + recordedBy transactionId kind request w w')
      (w'.store.results transactionId kind) := by
  rw [recordedBy_of_calls h.calls, Nat.add_zero]
  exact balanced.grow (Store.results_mono (h.store.ledger numbered) _ _)

/-- A call that was not recorded keeps the balance. -/
theorem balanced_of_store {transactionId : String} {kind : TransactionType} {calls : Nat}
    {w w' : World σ} (h : w'.store = w.store) (request : Request)
    (balanced : Balanced calls (w.store.results transactionId kind)) :
    Balanced (calls + recordedBy transactionId kind request w w')
      (w'.store.results transactionId kind) := by
  rw [recordedBy_of_store h, Nat.add_zero, h]
  exact balanced

/-- A call that was due and recorded keeps the balance. -/
theorem balanced_of_recorded {transactionId : String} {kind : TransactionType} {calls : Nat}
    {w w' : World σ} {a carried : Attempt} {call : GatewayCall}
    {answer : Outcome GatewayResponse} {record : ResponseRecord}
    (due : Due w.store carried call) (htransaction : carried.transactionId = a.transactionId)
    (hkind : carried.kind = a.kind) (hrecord : record.transactionId = carried.transactionId)
    (hrecordKind : record.kind = carried.kind)
    (becomes : w.Becomes (w.store.addResponse record).2 [⟨call, answer⟩] w')
    (balanced : Balanced calls (w.store.results transactionId kind)) :
    Balanced (calls + recordedBy transactionId kind (.payment a) w w')
      (w'.store.results transactionId kind) := by
  rw [becomes.store, Store.results_addResponse, hrecord, hrecordKind]
  by_cases hown : carried.transactionId = transactionId ∧ carried.kind = kind
  · obtain ⟨rfl, rfl⟩ := hown
    have hcalls : w'.calls = w.calls ++ [call] := becomes.calls
    have hone : recordedBy carried.transactionId carried.kind (.payment a) w w' = 1 := by
      unfold recordedBy
      rw [becomes.store, hcalls, List.length_append, Nat.add_sub_cancel_left,
        List.length_singleton, if_pos]
      refine ⟨?_, ?_⟩
      · simp only [Request.mayCallFor, htransaction, hkind, beq_self_eq_true, Bool.and_self]
      · simp only [Store.addResponse, List.length_append, List.length_singleton]
        omega
    rw [hone, if_pos ⟨rfl, rfl⟩]
    exact balanced.call (awaitsShopper_of_due due) _
  · have hzero : recordedBy transactionId kind (.payment a) w w' = 0 := by
      unfold recordedBy
      refine if_neg fun hmay => hown ?_
      have hboth := Bool.and_eq_true_iff.1 hmay.1
      rw [htransaction, hkind]
      exact ⟨eq_of_beq hboth.1, eq_of_beq hboth.2⟩
    rw [hzero, if_neg hown, List.append_nil, Nat.add_zero]
    exact balanced

/-- A payment keeps the balance of every transaction and type, its own and all others. -/
theorem balanced_submit {c : Collaborators σ} {a : Attempt} {w w' : World σ}
    {r : Outcome TransactionInfo} {transactionId : String} {kind : TransactionType} {calls : Nat}
    (numbered : w.store.Numbered) (h : submit c a w = (r, w'))
    (balanced : Balanced calls (w.store.results transactionId kind)) :
    Balanced (calls + recordedBy transactionId kind (.payment a) w w')
      (w'.store.results transactionId kind) := by
  rcases submit_cases h with ⟨row, _, _, becomes, _⟩ | course
  · exact balanced_of_grows numbered (becomes.grows (.updateResponse _ _ _)) _ balanced
  cases course with
  | refused idle early => exact balanced_of_grows numbered idle.grows _ balanced
  | replayed unflagged known idle => exact balanced_of_grows numbered idle.grows _ balanced
  | noted flagged made becomes =>
    exact balanced_of_grows numbered (becomes.grows (.addResponse _ _)) _ balanced
  | failed due failure becomes => exact balanced_of_store becomes.store _ balanced
  | lost due answer late becomes => exact balanced_of_store becomes.store _ balanced
  | recorded due answer made becomes =>
    have hfor := ResponseRecord.for_of_ofResponse made
    exact balanced_of_recorded due (transactionId_carried a) (kind_carried a) hfor.transaction
      hfor.kind becomes balanced

/-- Every request keeps the balance. -/
theorem balanced_serve (c : Collaborators σ) {w : World σ} {transactionId : String}
    {kind : TransactionType} {calls : Nat} (numbered : w.store.Numbered) (request : Request)
    (balanced : Balanced calls (w.store.results transactionId kind)) :
    Balanced (calls + recordedBy transactionId kind request w (serve c w request))
      ((serve c w request).store.results transactionId kind) := by
  cases request with
  | payment a => exact balanced_submit numbered rfl balanced
  | notification text =>
    exact balanced_of_grows numbered (grows_takeNotification c text w) _ balanced
  | form accountId custom properties =>
    exact balanced_of_grows numbered (grows_form c accountId custom properties w) _ balanced
  | query paymentId =>
    exact balanced_of_grows numbered ((quiet_paymentInfo c paymentId).grows w) _ balanced

/-! ## A whole run -/

/-- Every run keeps the balance. -/
theorem balanced_run (c : Collaborators σ) {w : World σ} {transactionId : String}
    {kind : TransactionType} {calls : Nat} (numbered : w.store.Numbered) (requests : List Request)
    (balanced : Balanced calls (w.store.results transactionId kind)) :
    Balanced (calls + recordedCalls c transactionId kind w requests)
      ((run c w requests).store.results transactionId kind) := by
  induction requests generalizing w calls with
  | nil => exact balanced
  | cons request requests ih =>
    have hstep := balanced_serve c numbered request balanced
    have hrest := ih ((extends_serve c w request).numbered numbered) hstep
    rw [Nat.add_assoc] at hrest
    exact hrest

/-- Where the latest row does not wait for the shopper, an attempt that does not come from the
hosted page goes no further than that row. -/
theorem idle_of_course {c : Collaborators σ} {a : Attempt} {w w' : World σ}
    {r : Outcome TransactionInfo} {row : Row}
    (hrow : w.store.latestOf? a.transactionId a.kind = some row)
    (settled : row.record.pspResult ≠ awaitsShopper)
    (unflagged : a.properties.affirms Property.fromHostedPage = false) (h : Course c a w r w') :
    w.Idle w' := by
  have undue : ∀ call, ¬ Due w.store a call := by
    intro call due
    have hlast : (w.store.results a.transactionId a.kind).getLast? = some row.record.pspResult := by
      rw [Store.getLast?_results, hrow]
      rfl
    exact settled (awaitsShopper_of_due due _ hlast)
  cases h with
  | refused idle early => exact idle
  | replayed unflagged known idle => exact idle
  | noted flagged made becomes =>
    rw [unflagged] at flagged
    cases flagged
  | failed due failure becomes => exact absurd due (undue _)
  | lost due answer late becomes => exact absurd due (undue _)
  | recorded due answer made becomes => exact absurd due (undue _)

/-- Such an attempt makes no call and adds no row, even if it returns to a row of its
transaction. -/
theorem submit_settled {c : Collaborators σ} {a : Attempt} {w w' : World σ}
    {r : Outcome TransactionInfo} {row : Row} (h : submit c a w = (r, w'))
    (hrow : w.store.latestOf? a.transactionId a.kind = some row)
    (settled : row.record.pspResult ≠ awaitsShopper)
    (unflagged : a.properties.affirms Property.fromHostedPage = false) :
    w'.calls = w.calls ∧ w'.store.rows.map Row.id = w.store.rows.map Row.id := by
  rcases submit_cases h with ⟨row', _, _, becomes, _⟩ | course
  · refine ⟨becomes.calls_eq, ?_⟩
    rw [becomes.store, Store.ids_updateResponse]
  · rw [← transactionId_carried a, ← kind_carried a] at hrow
    rw [← affirms_carried a] at unflagged
    have idle := idle_of_course hrow settled unflagged course
    exact ⟨idle.calls, by rw [idle.store]⟩

/-- Along every run, the calls recorded for a transaction and type are at most one more than its
rows that wait for the shopper; and once its latest row does not wait, no attempt that does not come
from the hosted page makes a call or adds a row. -/
theorem recorded_calls_at_most_once (c : Collaborators σ) (methods : List PaymentMethod)
    (outside : σ) (requests : List Request) (transactionId : String) (kind : TransactionType) :
    let w := run c (initial methods outside) requests
    recordedCalls c transactionId kind (initial methods outside) requests ≤
        1 + (w.store.results transactionId kind).count awaitsShopper ∧
      ∀ row a, w.store.latestOf? transactionId kind = some row →
        row.record.pspResult ≠ awaitsShopper → a.transactionId = transactionId → a.kind = kind →
        a.properties.affirms Property.fromHostedPage = false →
        ∀ enter ∈ [submit c a, process c a], (enter w).2.calls = w.calls ∧
          (enter w).2.store.rows.map Row.id = w.store.rows.map Row.id := by
  intro w
  constructor
  · have hrun : Balanced (0 + recordedCalls c transactionId kind (initial methods outside) requests)
        (w.store.results transactionId kind) :=
      balanced_run c (numbered_initial methods outside) requests Balanced.nil
    have hbound := hrun.bound
    omega
  · rintro row a hrow settled rfl rfl unflagged enter henter
    rcases List.mem_cons.1 henter with rfl | henter
    · exact submit_settled rfl hrow settled unflagged
    · obtain rfl := List.mem_singleton.1 henter
      have idle : w.Idle (process c a w).2 :=
        idle_of_course hrow settled unflagged (course_of_process rfl)
      exact ⟨idle.calls, by rw [idle.store]⟩

/-- A repeated authorization is called for once, and a third one is not called for at all. -/
theorem recorded_calls_at_most_once_repeated :
    let c := Collaborators.steady ⟨63850161600000000, some 0⟩
      (.ok (.purchase { result := some .authorised }))
    let a : Attempt :=
      ⟨"acc", "pay", "tx", none, .authorize, some (.finite false 1000 (-2)), some "EUR", []⟩
    let requests : List Request := [.payment a, .payment a]
    let w := run c (initial [] ()) requests
    recordedCalls c "tx" .authorize (initial [] ()) requests = 1 ∧
      recordedCalls c "tx" .authorize (initial [] ()) requests ≤
        1 + (w.store.results "tx" .authorize).count awaitsShopper ∧
      ∃ row, w.store.latestOf? "tx" .authorize = some row ∧
        row.record.pspResult ≠ awaitsShopper ∧ (submit c a w).2.calls = w.calls := by
  intro c a requests w
  obtain ⟨hbound, hsettled⟩ := recorded_calls_at_most_once c [] () requests "tx" .authorize
  obtain ⟨row, hrow, hresult⟩ : ∃ row, w.store.latestOf? "tx" .authorize = some row ∧
      row.record.pspResult = some PspResult.authorised.code := ⟨_, rfl, rfl⟩
  have hne : row.record.pspResult ≠ awaitsShopper := by
    rw [hresult]
    decide
  have hidle := hsettled row a hrow hne rfl rfl rfl (submit c a) List.mem_cons_self
  have hcalls : recordedCalls c "tx" .authorize (initial [] ()) requests = 1 := by decide +kernel
  refine ⟨hcalls, hbound, row, hrow, hne, ?_⟩
  unfold w
  exact hidle.1

end Engine

end CardPayments
