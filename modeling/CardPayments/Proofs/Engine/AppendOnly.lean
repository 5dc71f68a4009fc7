import CardPayments.Payment.Mapping
import CardPayments.Proofs.Engine.Effect
import CardPayments.Proofs.Merge

/-!
# The store is append-only

A row that has been written stays in its place. Of its columns only three can change, when a
purchase returns to it, and they can only gain: a reference and a code that are there stay there,
and no name among the properties is lost. A transaction adds one row at most, a batch of
notifications one for each of its items, and the numbers of the rows grow in the order of writing.
-/

namespace CardPayments

/-- A row and what has become of it later. -/
structure Row.Persists (row row' : Row) : Prop where
  /-- All that never changes is the same. -/
  fixed : row'.fixed = row.fixed
  /-- A gateway reference stays there. -/
  reference : (nonEmpty row.record.pspReference).isSome →
    (nonEmpty row'.record.pspReference).isSome
  /-- An authorization code stays there. -/
  authCode : (nonEmpty row.record.authCode).isSome → (nonEmpty row'.record.authCode).isSome
  /-- The properties keep their names. -/
  names : ∀ key, row.record.additionalData.has key = true →
    row'.record.additionalData.has key = true

namespace Row.Persists

variable {row row' row'' : Row}

theorem refl (row : Row) : Persists row row := ⟨rfl, fun h => h, fun h => h, fun _ h => h⟩

theorem trans (h : Persists row row') (h' : Persists row' row'') : Persists row row'' :=
  ⟨h'.fixed.trans h.fixed, fun hs => h'.reference (h.reference hs),
    fun hs => h'.authCode (h.authCode hs), fun key hs => h'.names key (h.names key hs)⟩

end Row.Persists

/-- A text that may be replaced does not become empty. -/
theorem ResponseRecord.isSome_replaceBy {old : Option String} (h : (nonEmpty old).isSome)
    (new : Option String) : (nonEmpty (replaceBy old new)).isSome := by
  cases new with
  | none => exact h
  | some s =>
    by_cases hs : s = ""
    · simp only [replaceBy, if_pos hs, h]
    · simp only [replaceBy, nonEmpty, if_neg hs, Option.isSome_some]

/-- A row persists when properties are laid over its own. -/
theorem Row.persists_merge (row : Row) (properties : Bag) :
    row.Persists (row.merge properties) := by
  refine ⟨row.fixed_merge properties, fun h => ?_, fun h => ?_, fun key h => ?_⟩
  · exact ResponseRecord.isSome_replaceBy h _
  · exact ResponseRecord.isSome_replaceBy h _
  · by_cases hcovers : row.record.additionalData.covers properties.storable = true
    · rw [additionalData_merge_of_covers hcovers]
      exact h
    · rw [additionalData_merge_of_not_covers hcovers, Bag.has_onto, Bag.has_storable,
        Bag.has_storable, h, Bool.or_true]

namespace Store

/-- Whether the numbers of the rows and of the requests of the hosted page grow in the order of
writing. -/
structure Sequenced (s : Store) : Prop where
  /-- The numbers of the rows grow. -/
  rows : s.Numbered
  /-- The numbers of the requests grow. -/
  requests : (s.requests.map RequestRow.id).Pairwise (· < ·)

/-- Whether everything in a store is still in its place in another one. -/
structure Preserves (s t : Store) : Prop where
  /-- Every row is in its place and persists. -/
  rows : ∀ (i : Nat) (row : Row), s.rows[i]? = some row →
    ∃ row', t.rows[i]? = some row' ∧ row.Persists row'
  /-- Every request of the hosted page is in its place as it was. -/
  requests : s.requests <+: t.requests

namespace Preserves

variable {s t u : Store}

theorem refl (s : Store) : Preserves s s :=
  ⟨fun _ row h => ⟨row, h, .refl row⟩, List.prefix_refl _⟩

theorem trans (h : Preserves s t) (h' : Preserves t u) : Preserves s u := by
  refine ⟨fun i row hrow => ?_, h.requests.trans h'.requests⟩
  obtain ⟨row', hrow', persists⟩ := h.rows i row hrow
  obtain ⟨row'', hrow'', persists'⟩ := h'.rows i row' hrow'
  exact ⟨row'', hrow'', persists.trans persists'⟩

theorem addResponse (s : Store) (record : ResponseRecord) :
    Preserves s (s.addResponse record).2 := by
  refine ⟨fun i row hrow => ⟨row, ?_, .refl row⟩, List.prefix_refl _⟩
  obtain ⟨hi, -⟩ := List.getElem?_eq_some_iff.1 hrow
  unfold Store.addResponse
  rw [List.getElem?_append_left hi]
  exact hrow

theorem addRequest (s : Store) (request : HostedRequest) :
    Preserves s (s.addRequest request).2 :=
  ⟨fun _ row h => ⟨row, h, .refl row⟩, List.prefix_append _ _⟩

theorem updateResponse (numbered : s.Numbered) (transactionId : String) (properties : Bag) :
    Preserves s (s.updateResponse transactionId properties).2 := by
  obtain ⟨f, hrows, hf⟩ := exists_map_updateResponse numbered transactionId properties
  constructor
  · intro i row hrow
    refine ⟨f row, by rw [hrows, List.getElem?_map, hrow, Option.map_some], ?_⟩
    obtain hsame | hmerged := hf row (List.mem_of_getElem? hrow)
    · rw [hsame]
      exact .refl row
    · rw [hmerged]
      exact row.persists_merge properties
  · have hrequests := requests_updateResponse s transactionId properties
    exact hrequests.symm ▸ List.prefix_refl _

end Preserves

/-- Items leave everything in its place. -/
theorem TakesAll.preserves {s t : Store} {items : List NotificationItem} (h : TakesAll s items t) :
    s.Preserves t := by
  induction h with
  | nil s => exact .refl s
  | cons first rest ih =>
    cases first with
    | passed known => exact ih
    | added missing made => exact (Preserves.addResponse _ _).trans ih

/-- Items add no more rows than they are. -/
theorem TakesAll.length_le {s t : Store} {items : List NotificationItem} (h : TakesAll s items t) :
    t.rows.length ≤ s.rows.length + items.length := by
  induction h with
  | nil s => exact Nat.le_refl _
  | cons first rest ih =>
    rw [List.length_cons]
    cases first with
    | passed known => omega
    | added missing made =>
      rw [length_addResponse] at ih
      omega

theorem Sequenced.addResponse {s : Store} (h : s.Sequenced) (record : ResponseRecord) :
    (s.addResponse record).2.Sequenced := ⟨numbered_addResponse h.rows record, h.requests⟩

theorem TakesAll.sequenced {s t : Store} {items : List NotificationItem} (h : TakesAll s items t)
    (sequenced : s.Sequenced) : t.Sequenced := by
  induction h with
  | nil => exact sequenced
  | cons first rest ih =>
    apply ih
    cases first with
    | passed known => exact sequenced
    | added missing made => exact sequenced.addResponse _

end Store

/-- How many rows an entry can add at most. -/
def Entry.rowLimit : Entry → Nat
  | .attempt _ | .request (.payment _) => 1
  | .request (.notification text) =>
    match NotificationBatch.decode text with
    | .error _ => 0
    | .ok items => items.length
  | .request (.form ..) | .request (.query _) => 0

/-- An entry that carries an attempt out can add a row. -/
theorem Entry.rowLimit_of_carried {entry : Entry} {a : Attempt} (h : entry.carried? = some a) :
    entry.rowLimit = 1 := by
  cases entry with
  | attempt a => rfl
  | request request =>
    cases request with
    | payment a => rfl
    | notification text => cases h
    | form accountId custom properties => cases h
    | query paymentId => cases h

namespace Entry.Makes

variable {σ : Type} {c : Collaborators σ} {s t : Store} {entry : Entry}

/-- Whatever an entry makes of a store, everything stays in its place. -/
theorem preserves (h : entry.Makes c s t) (numbered : s.Numbered) : s.Preserves t := by
  cases h with
  | nothing => exact .refl s
  | merged purchase => exact .updateResponse numbered _ _
  | noted carries flagged made => exact .addResponse s _
  | answered carries answer made => exact .addResponse s _
  | taken decoded part takes => exact takes.preserves
  | filed => exact .addRequest s _

/-- Every request stays in its place, also where the numbers of the rows do not grow. -/
theorem requests (h : entry.Makes c s t) : s.requests <+: t.requests := by
  cases h with
  | nothing => exact List.prefix_refl _
  | merged purchase =>
    have hrequests := Store.requests_updateResponse s
    exact (hrequests _ _).symm ▸ List.prefix_refl _
  | noted carries flagged made => exact List.prefix_refl _
  | answered carries answer made => exact List.prefix_refl _
  | taken decoded part takes => exact takes.preserves.requests
  | filed => exact List.prefix_append _ _

/-- No more rows come than the kind of entry allows. -/
theorem length_le (h : entry.Makes c s t) : t.rows.length ≤ s.rows.length + entry.rowLimit := by
  cases h with
  | nothing => exact Nat.le_add_right _ _
  | merged purchase =>
    rw [Store.length_updateResponse]
    exact Nat.le_add_right _ _
  | noted carries flagged made =>
    have hlimit := rowLimit_of_carried carries
    rw [Store.length_addResponse]
    omega
  | answered carries answer made =>
    have hlimit := rowLimit_of_carried carries
    rw [Store.length_addResponse]
    omega
  | @taken text items taken t decoded part takes =>
    have hlimit : (Entry.request (.notification text)).rowLimit = items.length := by
      simp only [rowLimit, decoded]
    have htakes := takes.length_le
    have hpart := part.length_le
    omega
  | filed => exact Nat.le_add_right _ _

/-- The numbers go on growing. -/
theorem sequenced (h : entry.Makes c s t) (sequenced : s.Sequenced) : t.Sequenced := by
  cases h with
  | nothing => exact sequenced
  | merged purchase =>
    refine ⟨Store.numbered_updateResponse sequenced.rows _ _, ?_⟩
    rw [Store.requests_updateResponse]
    exact sequenced.requests
  | noted carries flagged made => exact sequenced.addResponse _
  | answered carries answer made => exact sequenced.addResponse _
  | taken decoded part takes => exact takes.sequenced sequenced
  | filed =>
    refine ⟨sequenced.rows, ?_⟩
    unfold Store.addRequest
    rw [List.map_append]
    exact Store.pairwise_nextId sequenced.requests

end Entry.Makes

namespace Engine

variable {σ : Type}

theorem sequenced_initial (methods : List PaymentMethod) (outside : σ) :
    (initial methods outside).store.Sequenced :=
  ⟨numbered_initial methods outside, List.Pairwise.nil⟩

theorem sequenced_history (c : Collaborators σ) {w : World σ} (h : w.store.Sequenced)
    (entries : List Entry) : (history c w entries).store.Sequenced :=
  history_induction c (P := Store.Sequenced) (fun _ _ _ _ makes => makes.sequenced) h

/-- Everything stays in its place all along a history. -/
theorem preserves_history (c : Collaborators σ) {w : World σ} (h : w.store.Sequenced)
    (entries : List Entry) : w.store.Preserves (history c w entries).store := by
  have step : ∀ entry ∈ entries, ∀ s t, entry.Makes c s t →
      s.Sequenced ∧ w.store.Preserves s → t.Sequenced ∧ w.store.Preserves t := by
    rintro entry - s t makes ⟨sequenced, preserves⟩
    exact ⟨makes.sequenced sequenced, preserves.trans (makes.preserves sequenced.rows)⟩
  obtain ⟨-, preserves⟩ := history_induction c step ⟨h, .refl w.store⟩
  exact preserves

/-- Every request stays in its place, whatever the store is like. -/
theorem requests_history (c : Collaborators σ) (w : World σ) (entries : List Entry) :
    w.store.requests <+: (history c w entries).store.requests :=
  history_induction c (P := fun s => w.store.requests <+: s.requests)
    (fun _ _ _ _ makes h => h.trans makes.requests) (List.prefix_refl _)

/-- After every history, whatever the collaborators have done and however its entries have ended,
the numbers of the rows and of the requests of the hosted page grow in the order of writing;
whatever comes next, every row and every request stays in its place, and every row persists; and
the next entry adds no more rows than its kind allows. -/
theorem store_is_append_only (c : Collaborators σ) (methods : List PaymentMethod) (outside : σ)
    (entries : List Entry) :
    let w := history c (initial methods outside) entries
    w.store.Sequenced ∧
      (∀ more, w.store.Preserves (history c w more).store) ∧
      ∀ entry, (enter c w entry).store.rows.length ≤ w.store.rows.length + entry.rowLimit := by
  intro w
  have sequenced : w.store.Sequenced :=
    sequenced_history c (sequenced_initial methods outside) entries
  constructor
  · exact sequenced
  constructor
  · exact preserves_history c sequenced
  · intro entry
    exact (makes_enter c w entry).length_le

end Engine

end CardPayments
