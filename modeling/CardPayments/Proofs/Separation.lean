import CardPayments.Proofs.Store

/-!
# Payments apart from each other

What a store says about a payment and a transaction are the records that bear either, in their
order. Every look-up of a transaction can be answered from them, and every change that a transaction
makes is a change of them alone, although the latest row is sought among the rows of all payments.
So the changes of two payments with transactions of their own can be made in either order.
-/

namespace CardPayments

/-- Whether a record bears a payment or a transaction. -/
def ResponseRecord.concerns (paymentId transactionId : String) (record : ResponseRecord) : Bool :=
  record.paymentId == paymentId || record.transactionId == transactionId

namespace ResponseRecord

variable {paymentId transactionId : String} {record : ResponseRecord}

theorem concerns_of_paymentId (h : record.paymentId = paymentId) (transactionId : String) :
    record.concerns paymentId transactionId = true :=
  Bool.or_eq_true_iff.2 (Or.inl (beq_iff_eq.2 h))

theorem concerns_of_transactionId (paymentId : String) (h : record.transactionId = transactionId) :
    record.concerns paymentId transactionId = true :=
  Bool.or_eq_true_iff.2 (Or.inr (beq_iff_eq.2 h))

end ResponseRecord

namespace Store

/-- What a store says about a payment and a transaction, oldest first. -/
def about (s : Store) (paymentId transactionId : String) : List ResponseRecord :=
  (s.rows.map Row.record).filter (ResponseRecord.concerns paymentId transactionId)

/-- The rows of other payments with other transactions, oldest first. -/
def others (s : Store) (paymentId transactionId : String) : List Row :=
  s.rows.filter fun row => !row.record.concerns paymentId transactionId

/-- Two stores that say the same about a payment and a transaction, but for the numbers of the rows,
and know the same payment methods. -/
structure SameAbout (paymentId transactionId : String) (s t : Store) : Prop where
  /-- The same records in the same order. -/
  records : s.about paymentId transactionId = t.about paymentId transactionId
  /-- The same payment methods. -/
  methods : s.methods = t.methods

/-- One store out of another in which nothing has happened to other payments with other
transactions. -/
structure Spares (paymentId transactionId : String) (s t : Store) : Prop where
  /-- Their rows are the same, and in the same order. -/
  others : t.others paymentId transactionId = s.others paymentId transactionId
  /-- The requests of the hosted page are the same. -/
  requests : t.requests = s.requests
  /-- The payment methods are the same. -/
  methods : t.methods = s.methods

/-- What a transaction can make of a store. -/
inductive Change where
  /-- Nothing. -/
  | nothing
  /-- A response is added. -/
  | add (record : ResponseRecord)
  /-- Properties are laid over those of the latest row of the transaction. -/
  | lay (properties : Bag)

namespace Change

/-- The store after a change for a transaction. -/
def apply (transactionId : String) (s : Store) : Change → Store
  | nothing => s
  | add record => (s.addResponse record).2
  | lay properties => (s.updateResponse transactionId properties).2

/-- Whether what is added bears the payment and the transaction. -/
def IsFor (paymentId transactionId : String) : Change → Prop
  | add record => record.paymentId = paymentId ∧ record.transactionId = transactionId
  | _ => True

end Change

/-! ## Looking up -/

/-- The record of the latest row that satisfies a predicate is the last one among the records that
are told, if the predicate holds of no others. -/
theorem latest?_eq_about (s : Store) {paymentId transactionId : String}
    {p : ResponseRecord → Bool}
    (hp : ∀ record, p record = true → record.concerns paymentId transactionId = true) :
    (s.latest? p).map Row.record = (s.about paymentId transactionId).reverse.find? p := by
  have hboth : (fun record => decide (record.concerns paymentId transactionId = true ∧
      p record = true)) = p := by
    funext record
    rw [Bool.eq_iff_iff, decide_eq_true_iff]
    exact ⟨And.right, fun hrecord => ⟨hp record hrecord, hrecord⟩⟩
  unfold latest? about
  rw [← List.filter_reverse, List.find?_filter, hboth, ← List.map_reverse, List.find?_map]
  rfl

/-- Two look-ups with the same result, but for its number, find nothing or rows with the same
record. -/
theorem rows_of_map_eq {o o' : Option Row} (h : o.map Row.record = o'.map Row.record) :
    (o = none ∧ o' = none) ∨
      ∃ row row', o = some row ∧ o' = some row' ∧ row.record = row'.record := by
  cases o with
  | none => exact Or.inl ⟨rfl, Option.map_eq_none_iff.1 h.symm⟩
  | some row =>
    obtain ⟨row', hrow', hrecord⟩ := Option.map_eq_some_iff.1 h.symm
    exact Or.inr ⟨row, row', rfl, hrow', hrecord.symm⟩

namespace SameAbout

variable {paymentId transactionId : String} {s t : Store}

theorem refl (paymentId transactionId : String) (s : Store) :
    SameAbout paymentId transactionId s s := ⟨rfl, rfl⟩

/-- The same record is found in both stores. -/
theorem latest? (h : SameAbout paymentId transactionId s t) {p : ResponseRecord → Bool}
    (hp : ∀ record, p record = true → record.concerns paymentId transactionId = true) :
    (s.latest? p).map Row.record = (t.latest? p).map Row.record := by
  rw [latest?_eq_about s hp, latest?_eq_about t hp, h.records]

/-- So is the authorization that a follow-up acts on. -/
theorem latestAuthorization? (h : SameAbout paymentId transactionId s t) :
    (s.latestAuthorization? paymentId).map Row.record =
      (t.latestAuthorization? paymentId).map Row.record := by
  refine h.latest? fun record hrecord => ?_
  rw [Bool.and_eq_true] at hrecord
  exact ResponseRecord.concerns_of_paymentId (beq_iff_eq.1 hrecord.1) _

/-- So is the response to a transaction of a type. -/
theorem latestOf? (h : SameAbout paymentId transactionId s t) (kind : TransactionType) :
    (s.latestOf? transactionId kind).map Row.record =
      (t.latestOf? transactionId kind).map Row.record := by
  refine h.latest? fun record hrecord => ?_
  rw [Bool.and_eq_true] at hrecord
  exact ResponseRecord.concerns_of_transactionId _ (beq_iff_eq.1 hrecord.1)

/-- So is the response to a transaction of any type. -/
theorem latestOfTransaction? (h : SameAbout paymentId transactionId s t) :
    (s.latest? fun r => r.transactionId == transactionId).map Row.record =
      (t.latest? fun r => r.transactionId == transactionId).map Row.record :=
  h.latest? fun _ hrecord => ResponseRecord.concerns_of_transactionId _ (beq_iff_eq.1 hrecord)

theorem method? (h : SameAbout paymentId transactionId s t) (id : Option String) :
    s.method? id = t.method? id := by
  unfold Store.method?
  rw [h.methods]

end SameAbout

/-! ## Changing -/

/-- A list has one last element that satisfies a predicate. -/
private theorem eq_of_last {α : Type} {p : α → Prop} {earlier later earlier' later' : List α}
    {a a' : α} (h : earlier ++ a :: later = earlier' ++ a' :: later') (ha : p a) (ha' : p a')
    (hlater : ∀ x ∈ later, ¬ p x) (hlater' : ∀ x ∈ later', ¬ p x) :
    earlier = earlier' ∧ later = later' := by
  rw [List.append_eq_append_iff] at h
  obtain ⟨between, rfl, hrest⟩ | ⟨between, rfl, hrest⟩ := h
  · cases between with
    | nil => exact ⟨(List.append_nil _).symm, (List.cons.inj hrest).2⟩
    | cons b between =>
      obtain ⟨-, rfl⟩ := List.cons.inj hrest
      exact absurd ha' (hlater a' (List.mem_append_right _ List.mem_cons_self))
  · cases between with
    | nil => exact ⟨List.append_nil _, (List.cons.inj hrest).2.symm⟩
    | cons b between =>
      obtain ⟨-, rfl⟩ := List.cons.inj hrest
      exact absurd ha (hlater' a (List.mem_append_right _ List.mem_cons_self))

/-- What a store says when a response has been added. -/
theorem about_addResponse (s : Store) (paymentId transactionId : String)
    (record : ResponseRecord) :
    (s.addResponse record).2.about paymentId transactionId =
      s.about paymentId transactionId ++
        [record.kept].filter (ResponseRecord.concerns paymentId transactionId) := by
  unfold about addResponse
  rw [List.map_append, List.filter_append]
  rfl

/-- Returning to a transaction that has a row changes its last row alone. -/
theorem exists_rows_updateResponse {s : Store} (numbered : s.Numbered) {transactionId : String}
    {row : Row} (h : (s.latest? fun r => r.transactionId == transactionId) = some row)
    (properties : Bag) :
    row.record.transactionId = transactionId ∧ ∃ earlier later,
      s.rows = earlier ++ row :: later ∧
      (s.updateResponse transactionId properties).2.rows =
        earlier ++ row.merge properties :: later ∧
      ∀ r ∈ later, r.record.transactionId ≠ transactionId := by
  obtain ⟨hrow, earlier, later, hrows, hlater⟩ := exists_rows_of_latest? h
  have hothers : ∀ r ∈ later, r.record.transactionId ≠ transactionId :=
    fun r hr => beq_eq_false_iff_ne.1 (hlater r hr)
  refine ⟨beq_iff_eq.1 hrow, earlier, later, hrows, ?_, hothers⟩
  rw [updateResponse_of_rows numbered hrows (beq_iff_eq.1 hrow) hothers]

/-- What a store says when properties have been laid over the latest row of the transaction. -/
theorem about_updateResponse {s : Store} (numbered : s.Numbered) (paymentId : String)
    {transactionId : String} {row : Row}
    (h : (s.latest? fun r => r.transactionId == transactionId) = some row) (properties : Bag) :
    ∃ earlier later : List ResponseRecord,
      s.about paymentId transactionId = earlier ++ row.record :: later ∧
      (s.updateResponse transactionId properties).2.about paymentId transactionId =
        earlier ++ (row.merge properties).record :: later ∧
      row.record.transactionId = transactionId ∧
      ∀ record ∈ later, record.transactionId ≠ transactionId := by
  obtain ⟨htransaction, earlier, later, hrows, hafter, hlater⟩ :=
    exists_rows_updateResponse numbered h properties
  have hconcerns := ResponseRecord.concerns_of_transactionId paymentId htransaction
  have hmerged : (row.merge properties).record.concerns paymentId transactionId = true :=
    ResponseRecord.concerns_of_transactionId paymentId htransaction
  let told (rows : List Row) : List ResponseRecord :=
    (rows.map Row.record).filter (ResponseRecord.concerns paymentId transactionId)
  refine ⟨told earlier, told later, ?_, ?_, htransaction, ?_⟩
  · unfold about
    rw [hrows, List.map_append, List.map_cons, List.filter_append,
      List.filter_cons_of_pos hconcerns]
  · unfold about
    rw [hafter, List.map_append, List.map_cons, List.filter_append,
      List.filter_cons_of_pos hmerged]
  · intro record hrecord
    obtain ⟨r, hr, rfl⟩ := List.mem_map.1 (List.mem_filter.1 hrecord).1
    exact hlater r hr

/-- The row that is given back is the latest one of the transaction, with the properties. -/
theorem fst_updateResponse (s : Store) (transactionId : String) (properties : Bag) :
    (s.updateResponse transactionId properties).1 =
      (s.latest? fun r => r.transactionId == transactionId).map (Row.merge · properties) := by
  unfold updateResponse
  split
  · rename_i row hrow
    rw [hrow, Option.map_some]
  · rename_i hnone
    rw [hnone, Option.map_none]

/-- What is laid over a row depends on its record alone. -/
theorem record_merge_congr {row row' : Row} (h : row.record = row'.record) (properties : Bag) :
    (row.merge properties).record = (row'.merge properties).record := by
  unfold Row.merge
  rw [h]

namespace SameAbout

variable {paymentId transactionId : String} {s t : Store}

/-- The row that properties are laid over is the same, but for its number. -/
theorem fst_updateResponse (h : SameAbout paymentId transactionId s t) (properties : Bag) :
    (s.updateResponse transactionId properties).1.map Row.record =
      (t.updateResponse transactionId properties).1.map Row.record := by
  rw [Store.fst_updateResponse, Store.fst_updateResponse]
  obtain ⟨hs, ht⟩ | ⟨row, row', hs, ht, hrecord⟩ := rows_of_map_eq h.latestOfTransaction?
  · rw [hs, ht]
  · rw [hs, ht]
    exact congrArg some (record_merge_congr hrecord properties)

/-- The same is said when the same properties have been laid over the latest row of the
transaction. -/
theorem updateResponse (h : SameAbout paymentId transactionId s t) (hs : s.Numbered)
    (ht : t.Numbered) (properties : Bag) :
    SameAbout paymentId transactionId (s.updateResponse transactionId properties).2
      (t.updateResponse transactionId properties).2 := by
  obtain ⟨hrow, hrow'⟩ | ⟨row, row', hrow, hrow', hrecord⟩ :=
    rows_of_map_eq h.latestOfTransaction?
  · rw [updateResponse_of_latest?_none hrow, updateResponse_of_latest?_none hrow']
    exact h
  · have hsame := h.records
    obtain ⟨earlier, later, hbefore, hafter, htransaction, hlater⟩ :=
      about_updateResponse hs paymentId hrow properties
    obtain ⟨earlier', later', hbefore', hafter', htransaction', hlater'⟩ :=
      about_updateResponse ht paymentId hrow' properties
    rw [hbefore, hbefore'] at hsame
    obtain ⟨rfl, rfl⟩ := eq_of_last (p := fun record => record.transactionId = transactionId)
      hsame htransaction htransaction' hlater hlater'
    refine ⟨?_, ?_⟩
    · rw [hafter, hafter', record_merge_congr hrecord]
    · rw [methods_updateResponse, methods_updateResponse, h.methods]

theorem addResponse (h : SameAbout paymentId transactionId s t) (record : ResponseRecord) :
    SameAbout paymentId transactionId (s.addResponse record).2 (t.addResponse record).2 := by
  refine ⟨?_, h.methods⟩
  rw [about_addResponse, about_addResponse, h.records]

/-- The same is said after the same change. -/
theorem apply (h : SameAbout paymentId transactionId s t) (hs : s.Numbered) (ht : t.Numbered)
    (change : Change) :
    SameAbout paymentId transactionId (change.apply transactionId s)
      (change.apply transactionId t) := by
  cases change with
  | nothing => exact h
  | add record => exact h.addResponse record
  | lay properties => exact h.updateResponse hs ht properties

end SameAbout

/-- Adding a response to a payment spares the rows of other payments. -/
theorem spares_addResponse (s : Store) {record : ResponseRecord} {paymentId : String}
    (h : record.paymentId = paymentId) (transactionId : String) :
    s.Spares paymentId transactionId (s.addResponse record).2 := by
  have hconcerns : record.kept.concerns paymentId transactionId = true :=
    ResponseRecord.concerns_of_paymentId h transactionId
  refine ⟨?_, rfl, rfl⟩
  unfold others addResponse
  rw [List.filter_append, List.filter_cons_of_neg (by simp [hconcerns]), List.filter_nil,
    List.append_nil]

/-- Returning to a transaction spares the rows of other transactions. -/
theorem spares_updateResponse {s : Store} (numbered : s.Numbered)
    (paymentId transactionId : String) (properties : Bag) :
    s.Spares paymentId transactionId (s.updateResponse transactionId properties).2 := by
  refine ⟨?_, requests_updateResponse _ _ _, methods_updateResponse _ _ _⟩
  cases hrow : s.latest? fun r => r.transactionId == transactionId with
  | none => rw [updateResponse_of_latest?_none hrow]
  | some row =>
    obtain ⟨htransaction, earlier, later, hrows, hafter, -⟩ :=
      exists_rows_updateResponse numbered hrow properties
    have hconcerns := ResponseRecord.concerns_of_transactionId paymentId htransaction
    have hmerged : (row.merge properties).record.concerns paymentId transactionId = true :=
      ResponseRecord.concerns_of_transactionId paymentId htransaction
    unfold others
    rw [hafter, hrows, List.filter_append, List.filter_append,
      List.filter_cons_of_neg (by simp [hmerged]), List.filter_cons_of_neg (by simp [hconcerns])]

namespace Change

variable {paymentId transactionId : String} {s : Store}

/-- Every change spares the rows of other payments with other transactions. -/
theorem spares (h : s.Numbered) {change : Change} (hfor : change.IsFor paymentId transactionId) :
    s.Spares paymentId transactionId (change.apply transactionId s) := by
  cases change with
  | nothing => exact ⟨rfl, rfl, rfl⟩
  | add record => exact spares_addResponse s hfor.1 transactionId
  | lay properties => exact spares_updateResponse h paymentId transactionId properties

end Change

/-! ## Two payments -/

/-- Whether no row pairs either payment with the transaction of the other one. -/
def Apart (s : Store) (paymentId transactionId paymentId' transactionId' : String) : Prop :=
  ∀ row ∈ s.rows,
    ¬ (row.record.paymentId = paymentId ∧ row.record.transactionId = transactionId') ∧
      ¬ (row.record.paymentId = paymentId' ∧ row.record.transactionId = transactionId)

instance (s : Store) (paymentId transactionId paymentId' transactionId' : String) :
    Decidable (s.Apart paymentId transactionId paymentId' transactionId') :=
  inferInstanceAs (Decidable (∀ row ∈ s.rows, _ ∧ _))

/-- Whether two stores say the same about every payment, but for the numbers of the rows. -/
structure SameByPayment (s t : Store) : Prop where
  /-- The same records in the same order. -/
  records : ∀ paymentId,
    (s.ofPayment paymentId).map Row.record = (t.ofPayment paymentId).map Row.record
  /-- The same requests of the hosted page. -/
  requests : s.requests = t.requests
  /-- The same payment methods. -/
  methods : s.methods = t.methods

namespace Apart

variable {s : Store} {paymentId transactionId paymentId' transactionId' : String}

theorem symm (h : s.Apart paymentId transactionId paymentId' transactionId') :
    s.Apart paymentId' transactionId' paymentId transactionId :=
  fun row hrow => (h row hrow).symm

/-- Where no row pairs them, a record of the one payment or transaction is none of the other. -/
theorem not_concerns (h : s.Apart paymentId transactionId paymentId' transactionId')
    (payments : paymentId ≠ paymentId') (transactions : transactionId ≠ transactionId')
    {row : Row} (hrow : row ∈ s.rows)
    (hconcerns : row.record.concerns paymentId transactionId = true) :
    row.record.concerns paymentId' transactionId' = false := by
  obtain ⟨hfirst, hsecond⟩ := h row hrow
  simp only [ResponseRecord.concerns, Bool.or_eq_true, beq_iff_eq, Bool.or_eq_false_iff,
    beq_eq_false_iff_ne] at hconcerns ⊢
  rcases hconcerns with hpayment | htransaction
  · exact ⟨fun h' => payments (hpayment.symm.trans h'), fun h' => hfirst ⟨hpayment, h'⟩⟩
  · exact ⟨fun h' => hsecond ⟨h', htransaction⟩,
      fun h' => transactions (htransaction.symm.trans h')⟩

/-- So what is told about the one is told by the rows that changes for the other spare. -/
theorem about_eq (h : s.Apart paymentId transactionId paymentId' transactionId')
    (payments : paymentId ≠ paymentId') (transactions : transactionId ≠ transactionId') :
    s.about paymentId transactionId =
      ((s.others paymentId' transactionId').map Row.record).filter
        (ResponseRecord.concerns paymentId transactionId) := by
  unfold about others
  rw [List.filter_map, List.filter_map, List.filter_filter]
  congr 1
  refine List.filter_congr fun row hrow => ?_
  rw [Function.comp_apply]
  cases hconcerns : row.record.concerns paymentId transactionId with
  | false => rfl
  | true => rw [h.not_concerns payments transactions hrow hconcerns]; rfl

end Apart

namespace Change

variable {s : Store} {paymentId transactionId paymentId' transactionId' : String}
  {change change' : Change}

/-- A row after a change bears what a row bore before, or what the change is for. -/
theorem bears_apply (numbered : s.Numbered) (hfor : change.IsFor paymentId transactionId) :
    ∀ row ∈ (change.apply transactionId s).rows,
      (row.record.paymentId = paymentId ∧ row.record.transactionId = transactionId) ∨
        ∃ r ∈ s.rows, row.record.paymentId = r.record.paymentId ∧
          row.record.transactionId = r.record.transactionId := by
  intro row hrow
  cases change with
  | nothing => exact Or.inr ⟨row, hrow, rfl, rfl⟩
  | add record =>
    rcases List.mem_append.1 hrow with hold | hnew
    · exact Or.inr ⟨row, hold, rfl, rfl⟩
    · obtain rfl := List.mem_singleton.1 hnew
      exact Or.inl hfor
  | lay properties =>
    obtain ⟨f, hrows, hf⟩ := exists_map_updateResponse numbered transactionId properties
    have hmem : row ∈ s.rows.map f := hrows ▸ hrow
    obtain ⟨r, hr, rfl⟩ := List.mem_map.1 hmem
    right
    obtain hsame | hmerged := hf r hr
    · exact ⟨r, hr, by rw [hsame], by rw [hsame]⟩
    · exact ⟨r, hr, by rw [hmerged]; rfl, by rw [hmerged]; rfl⟩

/-- Payments stay apart when one of them changes. -/
theorem apart_apply (numbered : s.Numbered) (hfor : change.IsFor paymentId' transactionId')
    (payments : paymentId ≠ paymentId') (transactions : transactionId ≠ transactionId')
    (h : s.Apart paymentId transactionId paymentId' transactionId') :
    (change.apply transactionId' s).Apart paymentId transactionId paymentId' transactionId' := by
  intro row hrow
  rcases bears_apply numbered hfor row hrow with ⟨hpayment, htransaction⟩ |
    ⟨r, hr, hpayment, htransaction⟩
  · rw [hpayment, htransaction]
    exact ⟨fun hpair => payments hpair.1.symm, fun hpair => transactions hpair.2.symm⟩
  · rw [hpayment, htransaction]
    exact h r hr

/-- A change for one payment changes nothing that is said about another one. -/
theorem sameAbout_apply (numbered : s.Numbered) (hfor : change.IsFor paymentId' transactionId')
    (payments : paymentId ≠ paymentId') (transactions : transactionId ≠ transactionId')
    (h : s.Apart paymentId transactionId paymentId' transactionId') :
    SameAbout paymentId transactionId s (change.apply transactionId' s) := by
  have hspares := spares numbered hfor
  have hafter := apart_apply numbered hfor payments transactions h
  refine ⟨?_, hspares.methods.symm⟩
  rw [h.about_eq payments transactions, hafter.about_eq payments transactions, hspares.others]

end Change

/-! ## In either order -/

namespace SameByPayment

variable {s t : Store}

theorem of_eq (h : s = t) : SameByPayment s t := by
  subst h
  exact ⟨fun _ => rfl, rfl, rfl⟩

end SameByPayment

/-- A response to another payment may be added before or after. -/
theorem addResponse_comm (s : Store) {record record' : ResponseRecord}
    (payments : record.paymentId ≠ record'.paymentId) :
    SameByPayment ((s.addResponse record).2.addResponse record').2
      ((s.addResponse record').2.addResponse record).2 := by
  refine ⟨fun paymentId => ?_, rfl, rfl⟩
  have hrecords : ∀ (s : Store) (r : ResponseRecord),
      ((s.addResponse r).2.ofPayment paymentId).map Row.record =
        (s.ofPayment paymentId).map Row.record ++
          if r.paymentId = paymentId then [r.kept] else [] := by
    intro s r
    unfold ofPayment addResponse
    rw [List.filter_append, List.map_append]
    congr 1
    by_cases h : r.paymentId = paymentId
    · rw [if_pos h, List.filter_cons_of_pos (by simpa [ResponseRecord.kept] using h)]
      rfl
    · rw [if_neg h, List.filter_cons_of_neg (by simpa [ResponseRecord.kept] using h)]
      rfl
  rw [hrecords, hrecords, hrecords, hrecords]
  by_cases h : record.paymentId = paymentId
  · have h' : record'.paymentId ≠ paymentId := fun h' => payments (h.trans h'.symm)
    rw [if_neg h', List.append_nil, List.append_nil]
  · rw [if_neg h, List.append_nil, List.append_nil]

/-- The row with the number of another one is replaced by that one with the properties. -/
def lay (row : Row) (properties : Bag) (r : Row) : Row :=
  if r.id = row.id then row.merge properties else r

theorem updateResponse_of_latest? {s : Store} {transactionId : String} {row : Row}
    (h : (s.latest? fun r => r.transactionId == transactionId) = some row) (properties : Bag) :
    (s.updateResponse transactionId properties).2 =
      { s with rows := s.rows.map (lay row properties) } := by
  unfold updateResponse
  rw [h]
  rfl

/-- A response to another transaction may be added before properties are laid over a row, or
after. -/
theorem addResponse_updateResponse_comm (s : Store) {record : ResponseRecord}
    {transactionId : String} (transactions : record.transactionId ≠ transactionId)
    (properties : Bag) :
    ((s.addResponse record).2.updateResponse transactionId properties).2 =
      ((s.updateResponse transactionId properties).2.addResponse record).2 := by
  have hlatest : ((s.addResponse record).2.latest? fun r => r.transactionId == transactionId) =
      s.latest? fun r => r.transactionId == transactionId := by
    refine latest?_append_of_none rfl fun row hrow => ?_
    obtain rfl := List.mem_singleton.1 hrow
    exact beq_eq_false_iff_ne.2 transactions
  cases hrow : s.latest? fun r => r.transactionId == transactionId with
  | none =>
    rw [updateResponse_of_latest?_none (hlatest.trans hrow), updateResponse_of_latest?_none hrow]
  | some row =>
    have hids := ids_updateResponse s transactionId properties
    rw [updateResponse_of_latest? hrow] at hids
    rw [updateResponse_of_latest? (hlatest.trans hrow), updateResponse_of_latest? hrow]
    -- The new row has a number of its own.
    have hnew : row.id < nextId (s.rows.map Row.id) :=
      lt_nextId (List.mem_map_of_mem (mem_of_latest? hrow))
    unfold addResponse
    dsimp only at hids ⊢
    rw [hids, List.map_append, List.map_singleton, lay, if_neg (Nat.ne_of_gt hnew)]

/-- Returning to one transaction leaves the latest row of another one where it is. -/
theorem latest?_updateResponse_of_ne {s : Store} (numbered : s.Numbered)
    {transactionId transactionId' : String} (transactions : transactionId ≠ transactionId')
    (properties : Bag) :
    ((s.updateResponse transactionId properties).2.latest? fun r =>
        r.transactionId == transactionId') =
      s.latest? fun r => r.transactionId == transactionId' := by
  cases hrow : s.latest? fun r => r.transactionId == transactionId with
  | none => rw [updateResponse_of_latest?_none hrow]
  | some row =>
    obtain ⟨rfl, earlier, later, hrows, hafter, -⟩ :=
      exists_rows_updateResponse numbered hrow properties
    have hrow' : (row.record.transactionId == transactionId') = false :=
      beq_eq_false_iff_ne.2 transactions
    have hmerged : ((row.merge properties).record.transactionId == transactionId') = false := hrow'
    unfold latest?
    rw [hafter, hrows]
    simp only [List.reverse_append, List.reverse_cons, List.find?_append, List.find?_singleton,
      hrow', hmerged, Bool.false_eq_true, if_false]

/-- Rows with different numbers are replaced in either order. -/
theorem lay_comm {row row' : Row} (h : row.id ≠ row'.id) (properties properties' : Bag)
    (r : Row) :
    lay row' properties' (lay row properties r) = lay row properties (lay row' properties' r) := by
  have hmerged : (row.merge properties).id ≠ row'.id := h
  have hmerged' : (row'.merge properties').id ≠ row.id := h.symm
  unfold lay
  by_cases hrow : r.id = row.id
  · have hrow' : r.id ≠ row'.id := fun hrow' => h (hrow.symm.trans hrow')
    rw [if_pos hrow, if_neg hrow', if_neg hmerged, if_pos hrow]
  · by_cases hrow' : r.id = row'.id
    · rw [if_neg hrow, if_pos hrow', if_neg hmerged']
    · rw [if_neg hrow, if_neg hrow', if_neg hrow]

/-- Properties may be laid over the latest rows of two transactions in either order. -/
theorem updateResponse_comm {s : Store} (numbered : s.Numbered)
    {transactionId transactionId' : String} (transactions : transactionId ≠ transactionId')
    (properties properties' : Bag) :
    ((s.updateResponse transactionId properties).2.updateResponse transactionId' properties').2 =
      ((s.updateResponse transactionId' properties').2.updateResponse
        transactionId properties).2 := by
  have hfirst := latest?_updateResponse_of_ne numbered transactions.symm properties'
  have hsecond := latest?_updateResponse_of_ne numbered transactions properties
  cases hrow : s.latest? fun r => r.transactionId == transactionId with
  | none =>
    rw [updateResponse_of_latest?_none hrow, updateResponse_of_latest?_none (hfirst.trans hrow)]
  | some row =>
    cases hrow' : s.latest? fun r => r.transactionId == transactionId' with
    | none =>
      rw [updateResponse_of_latest?_none hrow',
        updateResponse_of_latest?_none (hsecond.trans hrow')]
    | some row' =>
      have hids : row.id ≠ row'.id := by
        intro hid
        have hsame := numbered.eq_of_id (mem_of_latest? hrow) (mem_of_latest? hrow') hid
        obtain ⟨htransaction, -⟩ := exists_rows_of_latest? hrow
        obtain ⟨htransaction', -⟩ := exists_rows_of_latest? hrow'
        rw [hsame] at htransaction
        exact transactions ((beq_iff_eq.1 htransaction).symm.trans (beq_iff_eq.1 htransaction'))
      rw [updateResponse_of_latest? (hsecond.trans hrow'),
        updateResponse_of_latest? (hfirst.trans hrow), updateResponse_of_latest? hrow,
        updateResponse_of_latest? hrow']
      dsimp only
      rw [List.map_map, List.map_map]
      congr 1
      exact List.map_congr_left fun r _ => lay_comm hids properties properties' r

/-- Changes for two payments with transactions of their own come to the same for every payment,
whichever is made first. -/
theorem Change.comm {s : Store} (numbered : s.Numbered)
    {paymentId transactionId paymentId' transactionId' : String} {change change' : Change}
    (hfor : change.IsFor paymentId transactionId) (hfor' : change'.IsFor paymentId' transactionId')
    (payments : paymentId ≠ paymentId') (transactions : transactionId ≠ transactionId') :
    SameByPayment (change'.apply transactionId' (change.apply transactionId s))
      (change.apply transactionId (change'.apply transactionId' s)) := by
  cases change with
  | nothing => exact .of_eq rfl
  | add record =>
    obtain ⟨rfl, rfl⟩ := hfor
    cases change' with
    | nothing => exact .of_eq rfl
    | add record' =>
      obtain ⟨rfl, rfl⟩ := hfor'
      exact addResponse_comm s payments
    | lay properties' => exact .of_eq (addResponse_updateResponse_comm s transactions properties')
  | lay properties =>
    cases change' with
    | nothing => exact .of_eq rfl
    | add record' =>
      obtain ⟨rfl, rfl⟩ := hfor'
      exact .of_eq (addResponse_updateResponse_comm s transactions.symm properties).symm
    | lay properties' =>
      exact .of_eq (updateResponse_comm numbered transactions properties properties')

end Store

end CardPayments
