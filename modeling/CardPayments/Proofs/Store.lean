import CardPayments.Store
import Mathlib.Data.List.Nodup

/-!
# The ledger of the record store

The columns of a row that never change make up the ledger of a store. Adding a response adds one
entry at its end, and returning to a row leaves it as it is, provided that the numbers of the rows
grow, which they always do. The business results of a transaction are read off the ledger.
-/

namespace CardPayments

/-- What of a row never changes. -/
def Row.fixed (row : Row) : Row :=
  { row with
    record := { row.record with pspReference := none, authCode := none, additionalData := [] } }

/-- Whether a row belongs to a transaction and type. -/
def Row.isOf (transactionId : String) (kind : TransactionType) (row : Row) : Bool :=
  row.record.transactionId == transactionId && row.record.kind == kind

/-- Laying properties over those of a row leaves alone what is fixed. -/
theorem Row.fixed_merge (row : Row) (properties : Bag) :
    (row.merge properties).fixed = row.fixed := rfl

namespace Store

/-- Whether the numbers of the rows grow. -/
def Numbered (s : Store) : Prop := (s.rows.map Row.id).Pairwise (· < ·)

instance : DecidablePred Numbered :=
  fun s => inferInstanceAs (Decidable ((s.rows.map Row.id).Pairwise (· < ·)))

/-- The rows as far as they never change, oldest first. -/
def ledger (s : Store) : List Row := s.rows.map Row.fixed

/-- The business results of a transaction and type, oldest first. -/
def results (s : Store) (transactionId : String) (kind : TransactionType) : List (Option String) :=
  (s.rows.filter (Row.isOf transactionId kind)).map fun row => row.record.pspResult

/-- The latest row that satisfies a predicate is there. -/
theorem mem_of_latest? {s : Store} {p : ResponseRecord → Bool} {row : Row}
    (h : s.latest? p = some row) : row ∈ s.rows :=
  List.mem_reverse.1 (List.mem_of_find?_eq_some h)

/-! ## Numbers -/

/-- The next number is higher than the others. -/
theorem lt_nextId {ids : List Nat} {id : Nat} (h : id ∈ ids) : id < nextId ids := by
  have hmax : ∀ (ids : List Nat) (n : Nat),
      n ≤ ids.foldl max n ∧ ∀ id ∈ ids, id ≤ ids.foldl max n := by
    intro ids
    induction ids with
    | nil => exact fun n => ⟨Nat.le_refl n, fun id hid => absurd hid List.not_mem_nil⟩
    | cons head tail ih =>
      intro n
      obtain ⟨hle, htail⟩ := ih (max n head)
      refine ⟨Nat.le_trans (Nat.le_max_left n head) hle, fun id hid => ?_⟩
      rcases List.mem_cons.1 hid with rfl | hid
      · exact Nat.le_trans (Nat.le_max_right n id) hle
      · exact htail id hid
  have hle := (hmax ids 0).2 id h
  unfold nextId
  omega

/-- No two rows share a number. -/
theorem Numbered.eq_of_id {s : Store} (h : s.Numbered) {row row' : Row} (hrow : row ∈ s.rows)
    (hrow' : row' ∈ s.rows) (hid : row.id = row'.id) : row = row' := by
  have hnodup : (s.rows.map Row.id).Nodup := h.imp Nat.ne_of_lt
  exact List.inj_on_of_nodup_map hnodup hrow hrow' hid

/-- Numbers that grow go on growing with the next one. -/
theorem pairwise_nextId {ids : List Nat} (h : ids.Pairwise (· < ·)) :
    (ids ++ [nextId ids]).Pairwise (· < ·) := by
  rw [List.pairwise_append]
  refine ⟨h, List.pairwise_singleton _ _, ?_⟩
  intro id hid next hnext
  obtain rfl := List.mem_singleton.1 hnext
  exact lt_nextId hid

theorem length_addResponse (s : Store) (record : ResponseRecord) :
    (s.addResponse record).2.rows.length = s.rows.length + 1 := List.length_append

theorem numbered_addResponse {s : Store} (h : s.Numbered) (record : ResponseRecord) :
    (s.addResponse record).2.Numbered := by
  have hids : (s.addResponse record).2.rows.map Row.id =
      s.rows.map Row.id ++ [nextId (s.rows.map Row.id)] := List.map_append
  unfold Numbered
  rw [hids]
  exact pairwise_nextId h

/-- Returning to a row leaves the numbers as they are. -/
theorem ids_updateResponse (s : Store) (transactionId : String) (properties : Bag) :
    (s.updateResponse transactionId properties).2.rows.map Row.id = s.rows.map Row.id := by
  unfold updateResponse
  split
  · rename_i row _
    rw [List.map_map]
    refine List.map_congr_left fun r _ => ?_
    dsimp only [Function.comp]
    by_cases hid : r.id = row.id
    · rw [if_pos hid]
      exact hid.symm
    · rw [if_neg hid]
  · rfl

theorem length_updateResponse (s : Store) (transactionId : String) (properties : Bag) :
    (s.updateResponse transactionId properties).2.rows.length = s.rows.length := by
  have hids := congrArg List.length (ids_updateResponse s transactionId properties)
  rw [List.length_map, List.length_map] at hids
  exact hids

theorem requests_updateResponse (s : Store) (transactionId : String) (properties : Bag) :
    (s.updateResponse transactionId properties).2.requests = s.requests := by
  unfold updateResponse
  split <;> rfl

/-- A transaction without a row has nothing to lay properties over. -/
theorem updateResponse_of_latest?_none {s : Store} {transactionId : String}
    (h : (s.latest? fun r => r.transactionId == transactionId) = none) (properties : Bag) :
    s.updateResponse transactionId properties = (none, s) := by
  unfold updateResponse
  rw [h]

theorem methods_updateResponse (s : Store) (transactionId : String) (properties : Bag) :
    (s.updateResponse transactionId properties).2.methods = s.methods := by
  unfold updateResponse
  split <;> rfl

theorem numbered_updateResponse {s : Store} (h : s.Numbered) (transactionId : String)
    (properties : Bag) : (s.updateResponse transactionId properties).2.Numbered := by
  unfold Numbered
  rw [ids_updateResponse]
  exact h

/-! ## The ledger -/

theorem ledger_addResponse (s : Store) (record : ResponseRecord) :
    (s.addResponse record).2.ledger = s.ledger ++ [(s.addResponse record).1.fixed] :=
  List.map_append

/-- Returning to a row lays properties over that row or leaves a row as it is, for the others have
other numbers. -/
theorem exists_map_updateResponse {s : Store} (h : s.Numbered) (transactionId : String)
    (properties : Bag) :
    ∃ f : Row → Row, (s.updateResponse transactionId properties).2.rows = s.rows.map f ∧
      ∀ row ∈ s.rows, f row = row ∨ f row = row.merge properties := by
  unfold updateResponse
  split
  · rename_i latest hlatest
    refine ⟨_, rfl, fun row hrow => ?_⟩
    by_cases hid : row.id = latest.id
    · right
      rw [if_pos hid, h.eq_of_id hrow (mem_of_latest? hlatest) hid]
    · left
      exact if_neg hid
  · exact ⟨id, (List.map_id _).symm, fun row _ => Or.inl rfl⟩

/-- Returning to a row leaves the ledger as it is. -/
theorem ledger_updateResponse {s : Store} (h : s.Numbered) (transactionId : String)
    (properties : Bag) : (s.updateResponse transactionId properties).2.ledger = s.ledger := by
  obtain ⟨f, hrows, hf⟩ := exists_map_updateResponse h transactionId properties
  unfold ledger
  rw [hrows, List.map_map]
  refine List.map_congr_left fun row hrow => ?_
  obtain hsame | hmerged := hf row hrow
  · rw [Function.comp, hsame]
  · rw [Function.comp, hmerged, Row.fixed_merge]

/-- Without a row to return to, the store stays as it is. -/
theorem eq_of_updateResponse_none {s store : Store} {transactionId : String} {properties : Bag}
    (h : s.updateResponse transactionId properties = (none, store)) : store = s := by
  unfold updateResponse at h
  split at h
  · cases (Prod.mk.inj h).1
  · exact (Prod.mk.inj h).2.symm

/-! ## Look-ups -/

/-- The latest row is sought among the newer rows and then among the older ones. -/
theorem latest?_append {s t : Store} {added : List Row} (hrows : t.rows = s.rows ++ added)
    (p : ResponseRecord → Bool) :
    t.latest? p = (added.reverse.find? fun row => p row.record).or (s.latest? p) := by
  unfold latest?
  rw [hrows, List.reverse_append, List.find?_append]

/-- Rows that do not satisfy the predicate do not matter. -/
theorem latest?_append_of_none {s t : Store} {added : List Row} {p : ResponseRecord → Bool}
    (hrows : t.rows = s.rows ++ added) (h : ∀ row ∈ added, p row.record = false) :
    t.latest? p = s.latest? p := by
  have hnone : added.reverse.find? (fun row => p row.record) = none := by
    rw [List.find?_eq_none]
    intro row hrow
    rw [h row (List.mem_reverse.1 hrow)]
    exact Bool.false_ne_true
  rw [latest?_append hrows, hnone, Option.none_or]

/-- The latest row is a newer one if a newer one satisfies the predicate. -/
theorem latest?_append_of_mem {s t : Store} {added : List Row} {p : ResponseRecord → Bool}
    {row : Row} (hrows : t.rows = s.rows ++ added) (hrow : row ∈ added)
    (h : p row.record = true) :
    ∃ latest ∈ added, t.latest? p = some latest ∧ p latest.record = true := by
  have hsome : (added.reverse.find? fun row => p row.record).isSome :=
    List.find?_isSome.2 ⟨row, List.mem_reverse.2 hrow, h⟩
  obtain ⟨latest, hlatest⟩ := Option.isSome_iff_exists.1 hsome
  refine ⟨latest, List.mem_reverse.1 (List.mem_of_find?_eq_some hlatest), ?_,
    List.find?_some (p := fun row : Row => p row.record) hlatest⟩
  rw [latest?_append hrows, hlatest, Option.some_or]

/-- The latest row that satisfies a predicate has none after it that does. -/
theorem latest?_of_rows {s : Store} {p : ResponseRecord → Bool} {earlier later : List Row}
    {row : Row} (hrows : s.rows = earlier ++ row :: later) (hrow : p row.record = true)
    (hlater : ∀ r ∈ later, p r.record = false) : s.latest? p = some row := by
  let before : Store := { s with rows := earlier ++ [row] }
  have hsplit : s.rows = before.rows ++ later := by
    rw [hrows, List.append_assoc]
    rfl
  rw [latest?_append_of_none hsplit hlater]
  unfold latest? before
  rw [List.reverse_append]
  exact List.find?_cons_of_pos hrow

/-- The latest row that satisfies a predicate has the rows before it, and after it others that do
not. -/
theorem exists_rows_of_latest? {s : Store} {p : ResponseRecord → Bool} {row : Row}
    (h : s.latest? p = some row) :
    p row.record = true ∧ ∃ earlier later, s.rows = earlier ++ row :: later ∧
      ∀ r ∈ later, p r.record = false := by
  obtain ⟨hrow, newer, older, hrows, hnewer⟩ := List.find?_eq_some_iff_append.1 h
  refine ⟨hrow, older.reverse, newer.reverse, ?_, fun r hr => ?_⟩
  · rw [← List.reverse_reverse s.rows, hrows, List.reverse_append, List.reverse_cons,
      List.append_assoc]
    rfl
  · exact Bool.not_eq_true' _ ▸ hnewer r (List.mem_reverse.1 hr)

theorem latest?_eq_none_iff {s : Store} {p : ResponseRecord → Bool} :
    s.latest? p = none ↔ ∀ row ∈ s.rows, p row.record = false := by
  unfold latest?
  simp only [List.find?_eq_none, List.mem_reverse, Bool.not_eq_true]

/-- Whether a row has the highest number among those that satisfy a predicate. -/
structure IsLast (s : Store) (p : ResponseRecord → Bool) (row : Row) : Prop where
  /-- The row is there. -/
  mem : row ∈ s.rows
  /-- The row satisfies the predicate. -/
  holds : p row.record = true
  /-- Every other one has a lower number. -/
  last : ∀ r ∈ s.rows, p r.record = true → r.id ≤ row.id

/-- Where the numbers grow, the latest row is the one with the highest number. -/
theorem latest?_eq_some_iff {s : Store} (numbered : s.Numbered) {p : ResponseRecord → Bool}
    {row : Row} : s.latest? p = some row ↔ s.IsLast p row := by
  have highest : ∀ {r}, s.latest? p = some r → s.IsLast p r := by
    intro r hr
    obtain ⟨hholds, earlier, later, hrows, hlater⟩ := exists_rows_of_latest? hr
    refine ⟨mem_of_latest? hr, hholds, fun other hother hp => ?_⟩
    have hsorted : (earlier ++ r :: later).Pairwise fun a b => a.id < b.id := by
      rw [← hrows]
      exact List.pairwise_map.1 numbered
    rw [List.pairwise_append] at hsorted
    rw [hrows, List.mem_append, List.mem_cons] at hother
    rcases hother with hearlier | rfl | hafter
    · exact Nat.le_of_lt (hsorted.2.2 other hearlier r List.mem_cons_self)
    · exact Nat.le_refl _
    · rw [hlater other hafter] at hp
      cases hp
  constructor
  · exact highest
  · intro h
    cases hlatest : s.latest? p with
    | none =>
      have hnot := latest?_eq_none_iff.1 hlatest row h.mem
      rw [h.holds] at hnot
      cases hnot
    | some latest =>
      have hlast := highest hlatest
      have hid : latest.id = row.id :=
        Nat.le_antisymm (h.last latest hlast.mem hlast.holds) (hlast.last row h.mem h.holds)
      rw [numbered.eq_of_id hlast.mem h.mem hid]

/-- Returning to a transaction changes its latest row alone. -/
theorem updateResponse_of_rows {s : Store} (numbered : s.Numbered) {transactionId : String}
    {earlier later : List Row} {row : Row} (hrows : s.rows = earlier ++ row :: later)
    (hrow : row.record.transactionId = transactionId)
    (hlater : ∀ r ∈ later, r.record.transactionId ≠ transactionId) (properties : Bag) :
    s.updateResponse transactionId properties = (some (row.merge properties),
      { s with rows := earlier ++ row.merge properties :: later }) := by
  have hlatest : (s.latest? fun r => r.transactionId == transactionId) = some row :=
    latest?_of_rows hrows (beq_iff_eq.2 hrow) fun r hr => beq_eq_false_iff_ne.2 (hlater r hr)
  -- The other rows have other numbers.
  have hids : (earlier.map Row.id ++ row.id :: later.map Row.id).Pairwise (· < ·) := by
    have hmap : s.rows.map Row.id = earlier.map Row.id ++ row.id :: later.map Row.id := by
      rw [hrows, List.map_append, List.map_cons]
    exact hmap ▸ numbered
  rw [List.pairwise_append, List.pairwise_cons] at hids
  obtain ⟨-, ⟨hafter, -⟩, hbefore⟩ := hids
  have hkeep : ∀ {rows : List Row}, (∀ r ∈ rows, r.id ≠ row.id) →
      (rows.map fun r => if r.id = row.id then row.merge properties else r) = rows := by
    intro rows hne
    rw [List.map_congr_left fun r hr => if_neg (hne r hr), List.map_id']
  unfold updateResponse
  rw [hlatest]
  simp only [hrows, List.map_append, List.map_cons, if_true]
  rw [hkeep fun r hr => Nat.ne_of_lt (hbefore _ (List.mem_map_of_mem hr) _ List.mem_cons_self),
    hkeep fun r hr => (Nat.ne_of_lt (hafter _ (List.mem_map_of_mem hr))).symm]

/-! ## Business results -/

/-- The business results are read off the ledger. -/
theorem results_eq_ledger (s : Store) (transactionId : String) (kind : TransactionType) :
    s.results transactionId kind =
      (s.ledger.filter (Row.isOf transactionId kind)).map fun row => row.record.pspResult := by
  unfold results ledger
  rw [List.filter_map, List.map_map]
  rfl

/-- The last business result is that of the latest row. -/
theorem getLast?_results (s : Store) (transactionId : String) (kind : TransactionType) :
    (s.results transactionId kind).getLast? =
      (s.latestOf? transactionId kind).map fun row => row.record.pspResult := by
  unfold results
  rw [List.getLast?_map, List.getLast?_filter]
  rfl

/-- A longer ledger has further business results. -/
theorem results_mono {s s' : Store} (h : s.ledger <+: s'.ledger) (transactionId : String)
    (kind : TransactionType) : s.results transactionId kind <+: s'.results transactionId kind := by
  rw [results_eq_ledger, results_eq_ledger]
  exact (h.filter _).map _

/-- Adding a response adds its business result to its own transaction. -/
theorem results_addResponse (s : Store) (record : ResponseRecord) (transactionId : String)
    (kind : TransactionType) :
    (s.addResponse record).2.results transactionId kind = s.results transactionId kind ++
      if record.transactionId = transactionId ∧ record.kind = kind then [record.pspResult]
      else [] := by
  unfold results addResponse
  rw [List.filter_append, List.map_append]
  congr 1
  by_cases hof : record.transactionId = transactionId ∧ record.kind = kind
  · rw [if_pos hof, List.filter_cons_of_pos (by simpa [Row.isOf, ResponseRecord.kept] using hof)]
    rfl
  · rw [if_neg hof, List.filter_cons_of_neg (by simpa [Row.isOf, ResponseRecord.kept] using hof)]
    rfl

/-! ## Growth -/

/-- A store that has grown out of another one. -/
structure Extends (s s' : Store) : Prop where
  /-- The numbers still grow. -/
  numbered : s.Numbered → s'.Numbered
  /-- Nothing has gone from the ledger. -/
  ledger : s.Numbered → s.ledger <+: s'.ledger

namespace Extends

variable {s t u : Store}

theorem refl (s : Store) : Extends s s := ⟨id, fun _ => List.prefix_refl _⟩

theorem trans (h : Extends s t) (h' : Extends t u) : Extends s u :=
  ⟨fun hs => h'.numbered (h.numbered hs),
    fun hs => (h.ledger hs).trans (h'.ledger (h.numbered hs))⟩

theorem addResponse (s : Store) (record : ResponseRecord) :
    Extends s (s.addResponse record).2 := by
  refine ⟨fun hs => numbered_addResponse hs record, fun _ => ?_⟩
  rw [ledger_addResponse]
  exact List.prefix_append _ _

theorem updateResponse (s : Store) (transactionId : String) (properties : Bag) :
    Extends s (s.updateResponse transactionId properties).2 := by
  refine ⟨fun hs => numbered_updateResponse hs transactionId properties, fun hs => ?_⟩
  have hledger := ledger_updateResponse hs transactionId properties
  exact hledger.symm ▸ List.prefix_refl _

/-- The rows alone tell how a store has grown. -/
theorem of_rows (h : t.rows = s.rows) : Extends s t := by
  refine ⟨fun hs => ?_, fun _ => ?_⟩
  · unfold Numbered
    rw [h]
    exact hs
  · have hledger : t.ledger = s.ledger := congrArg (List.map Row.fixed) h
    exact hledger.symm ▸ List.prefix_refl _

end Extends

end Store

end CardPayments
