import CardPayments.Proofs.Engine.Run
import CardPayments.Proofs.Notification.Delivery

/-!
# Redelivered batches

A batch that is delivered again is to add nothing that it has added before. That an item is recorded
is read off the latest row of its transaction and type, so it goes unnoticed once another item has
been recorded over it; and what an item is matched to may change with every row that bears its
gateway reference. In an orderly batch neither happens: items that meet in a transaction or in a
reference tell of one event. Such a batch leaves the same rows, however often its delivery was
broken off before.
-/

namespace CardPayments

variable {σ : Type}

/-- Whether an item tells of a payment at all. -/
def NotificationItem.isRelevant (item : NotificationItem) : Bool :=
  (kindOfEvent? item.eventCode).isSome

/-- Whether two items that tell of payments have the same gateway reference. -/
def NotificationItem.SharesReference (i j : NotificationItem) : Prop :=
  i.isRelevant ∧ j.isRelevant ∧ (nonEmpty i.pspReference).isSome ∧
    nonEmpty i.pspReference = nonEmpty j.pspReference

/-- Whether two items would be recorded under the same transaction and type. -/
def Store.SharesTransaction (s : Store) (i j : NotificationItem) : Prop :=
  ∃ a ∈ s.attempt? i, ∃ b ∈ s.attempt? j, a.transactionId = b.transactionId ∧ a.kind = b.kind

/-- Whether the items of a batch keep out of each other's way in a store. This is enough for a
second delivery to add nothing, but more than is needed. Besides different events of one transaction
and type it rules out two other ways to record an item again: an item without a gateway reference
whose additional data bring one, which its record then bears, and events of different types under
one reference, the first of which is matched to the record of the second when it comes again. -/
structure Store.Orderly (s : Store) (items : List NotificationItem) : Prop where
  /-- Gateway references can be read from the records. -/
  legible : ∀ item ∈ items, item.IsLegible
  /-- Items with the same gateway reference tell of one event. -/
  reference : ∀ i ∈ items, ∀ j ∈ items, i.SharesReference j → i.event = j.event
  /-- Items with the same transaction and type tell of one event. -/
  transaction : ∀ i ∈ items, ∀ j ∈ items, s.SharesTransaction i j → i.event = j.event

instance (i j : NotificationItem) : Decidable (i.SharesReference j) :=
  inferInstanceAs (Decidable (_ ∧ _))

instance (s : Store) (i j : NotificationItem) : Decidable (s.SharesTransaction i j) :=
  inferInstanceAs (Decidable (∃ _ ∈ _, _))

instance (s : Store) (items : List NotificationItem) : Decidable (s.Orderly items) :=
  decidable_of_iff
    ((∀ item ∈ items, item.IsLegible) ∧
      (∀ i ∈ items, ∀ j ∈ items, i.SharesReference j → i.event = j.event) ∧
      ∀ i ∈ items, ∀ j ∈ items, s.SharesTransaction i j → i.event = j.event)
    ⟨fun h => ⟨h.1, h.2.1, h.2.2⟩, fun h => ⟨h.legible, h.reference, h.transaction⟩⟩

/-- Whether a row is one of the transaction and type of an attempt. -/
structure Row.Of (a : Attempt) (row : Row) : Prop where
  /-- The same transaction. -/
  transaction : row.record.transactionId = a.transactionId
  /-- The same type. -/
  kind : row.record.kind = a.kind

/-- Whether a row is the one by which an item has been recorded. -/
structure Row.Tells (s : Store) (item : NotificationItem) (row : Row) : Prop where
  /-- The item was to be recorded there. -/
  attempted : ∃ a, s.attempt? item = some a ∧ row.Of a
  /-- The row bears the reference of the item. -/
  reference : row.record.pspReference = item.pspReference
  /-- The row tells of the item. -/
  recorded : item.isRecordedBy row.record = true

/-- Whether a row bears on an item: the item is matched to it, or is to be recorded there. -/
def Row.Touches (s : Store) (item : NotificationItem) (row : Row) : Prop :=
  ((nonEmpty item.pspReference).isSome ∧ row.record.pspReference = nonEmpty item.pspReference) ∨
    ∃ a, s.attempt? item = some a ∧ row.Of a

namespace Store

/-- A store that has taken items in, with the rows that have been added for them. -/
structure GrownBy (s : Store) (items : List NotificationItem) (added : List Row) (t : Store) :
    Prop where
  /-- The added rows stand behind the others. -/
  rows : t.rows = s.rows ++ added
  /-- The requests are the same. -/
  requests : t.requests = s.requests
  /-- Every added row tells of an item. -/
  told : ∀ row ∈ added, ∃ item ∈ items, row.Tells s item

namespace GrownBy

variable {s t : Store} {items : List NotificationItem} {added : List Row} {i : NotificationItem}

theorem refl (s : Store) (items : List NotificationItem) : s.GrownBy items [] s :=
  ⟨(List.append_nil _).symm, rfl, fun _ hrow => absurd hrow List.not_mem_nil⟩

/-- Where a row was added for an item of the same event, the latest row tells of it. -/
theorem isRecordedBy_latest (h : s.GrownBy items added t) (orderly : s.Orderly items)
    {j : NotificationItem} (hj : j ∈ items) (hevent : i.event = j.event) {b : Attempt}
    (hb : s.attempt? j = some b) {row : Row} (hrow : row ∈ added) (of : row.Of b) :
    ((t.latestOf? b.transactionId b.kind).any fun row => i.isRecordedBy row.record) = true := by
  obtain ⟨latest, hlatest, hlookup, hmatches⟩ := latest?_append_of_mem h.rows hrow
    (p := fun r => r.transactionId == b.transactionId && r.kind == b.kind)
    (by rw [of.transaction, of.kind, beq_self_eq_true, beq_self_eq_true]; rfl)
  obtain ⟨htransaction, hkind⟩ := Bool.and_eq_true_iff.1 hmatches
  obtain ⟨k, hk, tells⟩ := h.told latest hlatest
  obtain ⟨c, hc, of'⟩ := tells.attempted
  have hsame : j.event = k.event := orderly.transaction j hj k hk ⟨b, hb, c, hc,
    (eq_of_beq htransaction).symm.trans of'.transaction, (eq_of_beq hkind).symm.trans of'.kind⟩
  have hfound : t.latestOf? b.transactionId b.kind = some latest := hlookup
  rw [hfound, Option.any_some, NotificationItem.isRecordedBy_congr (hevent.trans hsame)]
  exact tells.recorded

/-- An item is matched as before, unless a row with its reference has been added. -/
theorem attempt?_of_untouched (h : s.GrownBy items added t)
    (untouched : ∀ row ∈ added, ¬ ((nonEmpty i.pspReference).isSome ∧
      row.record.pspReference = nonEmpty i.pspReference)) : t.attempt? i = s.attempt? i := by
  have hrow : ((nonEmpty i.pspReference).bind fun reference =>
      t.latestByReference? (some reference)) =
      (nonEmpty i.pspReference).bind fun reference => s.latestByReference? (some reference) := by
    cases hreference : nonEmpty i.pspReference with
    | none => rfl
    | some reference =>
      refine latest?_append_of_none h.rows (p := fun r => r.pspReference == some reference)
        fun row hrow => beq_eq_false_iff_ne.2 fun heq => untouched row hrow ?_
      rw [hreference]
      exact ⟨rfl, heq⟩
  have hrequest : t.latestRequest? = s.latestRequest? := by
    unfold latestRequest?
    rw [h.requests]
  unfold attempt? NotificationItem.find?
  rw [hrow, hrequest]

/-- Nothing is missing for an item whose reference a new row bears. -/
theorem missing?_of_reference (h : s.GrownBy items added t) (orderly : s.Orderly items)
    (hi : i ∈ items) {row : Row} (hrow : row ∈ added) (hsome : (nonEmpty i.pspReference).isSome)
    (hreference : row.record.pspReference = nonEmpty i.pspReference) : t.missing? i = none := by
  cases hattempt : t.attempt? i with
  | none => exact missing?_of_attempt?_none hattempt
  | some a =>
    obtain ⟨kind, found, hkind, hfound, rfl⟩ := exists_of_attempt? hattempt
    obtain ⟨reference, href⟩ := Option.isSome_iff_exists.1 hsome
    -- The item is now matched to the latest of the new rows that bear its reference.
    obtain ⟨latest, hlatest, hlookup, hmatches⟩ := latest?_append_of_mem h.rows hrow
      (p := fun r => r.pspReference == some reference) (beq_iff_eq.2 (hreference.trans href))
    have hmatched : i.find? t = some (.response latest.record) := by
      have hrow' : t.latestByReference? (some reference) = some latest := hlookup
      unfold NotificationItem.find?
      rw [href, Option.bind_some, hrow']
    obtain rfl : found = .response latest.record := Option.some.inj (hfound.symm.trans hmatched)
    -- That row was added for an item of the same event, and so is of the type that is asked for.
    obtain ⟨j, hj, tells⟩ := h.told latest hlatest
    obtain ⟨b, hb, of⟩ := tells.attempted
    obtain ⟨kind', found', hkind', -, hattempt'⟩ := exists_of_attempt? hb
    have hjref : j.pspReference = some reference :=
      tells.reference.symm.trans (eq_of_beq hmatches)
    have hevent : i.event = j.event := by
      refine orderly.reference i hi j hj ⟨Option.isSome_of_eq_some hkind,
        Option.isSome_of_eq_some hkind', hsome, ?_⟩
      rw [hjref, ← (nonEmpty_eq_some_iff.1 href).1]
    have hcode : i.eventCode = j.eventCode := congrArg Prod.fst hevent
    rw [← hcode, hkind] at hkind'
    obtain rfl := Option.some.inj hkind'
    have hkindFor : i.kindFor kind (.response latest.record) = latest.record.kind :=
      NotificationItem.kindFor_of_event hcode (of.kind.trans (congrArg Attempt.kind hattempt'))
    have hknown := h.isRecordedBy_latest orderly hj hevent hb hlatest of
    rw [← of.transaction, ← of.kind, ← hkindFor] at hknown
    rw [missing?_of_attempt? hattempt]
    exact if_pos hknown

/-- Nothing is missing for an item that a new row touches. -/
theorem missing?_of_touched (h : s.GrownBy items added t) (orderly : s.Orderly items)
    (hi : i ∈ items) (touched : ∃ row ∈ added, row.Touches s i) : t.missing? i = none := by
  by_cases hreference : ∃ row ∈ added, (nonEmpty i.pspReference).isSome ∧
      row.record.pspReference = nonEmpty i.pspReference
  · obtain ⟨row, hrow, hsome, hreference⟩ := hreference
    exact h.missing?_of_reference orderly hi hrow hsome hreference
  · obtain ⟨row, hrow, htouched | ⟨a, ha, of⟩⟩ := touched
    · exact absurd ⟨row, hrow, htouched⟩ hreference
    · have hattempt := h.attempt?_of_untouched fun row hrow htouched =>
        hreference ⟨row, hrow, htouched⟩
      rw [missing?_of_attempt? (hattempt.trans ha), h.isRecordedBy_latest orderly hi rfl ha hrow of,
        if_pos rfl]

/-- What is missing for an item that no new row touches was missing before. -/
theorem missing?_of_untouched (h : s.GrownBy items added t)
    (untouched : ∀ row ∈ added, ¬ row.Touches s i) : t.missing? i = s.missing? i := by
  have hattempt := h.attempt?_of_untouched fun row hrow htouched =>
    untouched row hrow (Or.inl htouched)
  cases ha : s.attempt? i with
  | none =>
    rw [missing?_of_attempt?_none (hattempt.trans ha), missing?_of_attempt?_none ha]
  | some a =>
    have hlatest : t.latestOf? a.transactionId a.kind = s.latestOf? a.transactionId a.kind := by
      refine latest?_append_of_none h.rows fun row hrow => Bool.and_eq_false_iff.2 ?_
      rw [beq_eq_false_iff_ne, beq_eq_false_iff_ne, ← not_and_or]
      rintro ⟨htransaction, hkind⟩
      exact untouched row hrow (Or.inr ⟨a, ha, htransaction, hkind⟩)
    rw [missing?_of_attempt? (hattempt.trans ha), missing?_of_attempt? ha, hlatest]

/-- What has come to be known stays known. -/
theorem missing?_mono {more : List Row} {u : Store} (h : s.GrownBy items added t)
    (h' : s.GrownBy items (added ++ more) u) (orderly : s.Orderly items) (hi : i ∈ items)
    (known : t.missing? i = none) : u.missing? i = none := by
  by_cases touched : ∃ row ∈ added ++ more, row.Touches s i
  · exact h'.missing?_of_touched orderly hi touched
  · have untouched : ∀ row ∈ added ++ more, ¬ row.Touches s i := fun row hrow htouched =>
      touched ⟨row, hrow, htouched⟩
    rw [h'.missing?_of_untouched untouched, ← h.missing?_of_untouched fun row hrow =>
      untouched row (List.mem_append_left _ hrow)]
    exact known

/-- Taking in an item of an orderly batch adds a row at most, and leaves nothing missing for it. -/
theorem takes (h : s.GrownBy items added t) (orderly : s.Orderly items) (hi : i ∈ items)
    {u : Store} (takes : t.Takes i u) :
    ∃ more, s.GrownBy items (added ++ more) u ∧ u.missing? i = none := by
  cases takes with
  | passed known =>
    rw [← List.append_nil added] at h
    exact ⟨[], h, known⟩
  | @added a now record missing made =>
    have untouched : ∀ row ∈ added, ¬ row.Touches s i := fun row hrow htouched => by
      rw [h.missing?_of_touched orderly hi ⟨row, hrow, htouched⟩] at missing
      cases missing
    rw [h.missing?_of_untouched untouched] at missing
    have ha := attempt?_of_missing? missing
    obtain ⟨kind, found, -, -, hattempt⟩ := exists_of_attempt? ha
    have hfor := ResponseRecord.for_of_ofResponse made
    obtain ⟨hreference, hrecorded⟩ := NotificationItem.isRecordedBy_kept (orderly.legible i hi)
      (by rw [hattempt]; rfl) made
    have of : (t.addResponse record).1.Of a := ⟨hfor.transaction, hfor.kind⟩
    have grown :
        s.GrownBy items (added ++ [(t.addResponse record).1]) (t.addResponse record).2 := by
      refine ⟨?_, h.requests, fun row hrow => ?_⟩
      · rw [← List.append_assoc, ← h.rows]
        rfl
      · rcases List.mem_append.1 hrow with hrow | hrow
        · exact h.told row hrow
        · obtain rfl := List.mem_singleton.1 hrow
          exact ⟨i, hi, ⟨a, ha, of⟩, hreference, hrecorded⟩
    refine ⟨_, grown, grown.missing?_of_touched orderly hi ⟨_, ?_, Or.inr ⟨a, ha, of⟩⟩⟩
    exact List.mem_append_right _ (List.mem_singleton.2 rfl)

/-- Taking in items of an orderly batch leaves nothing missing for them, nor for those for which
nothing was missing before. -/
theorem takesAll (h : s.GrownBy items added t) (orderly : s.Orderly items)
    {taken : List NotificationItem} (hsub : ∀ item ∈ taken, item ∈ items) {u : Store}
    (takes : t.TakesAll taken u) :
    ∃ more, s.GrownBy items (added ++ more) u ∧
      ∀ item ∈ items, item ∈ taken ∨ t.missing? item = none → u.missing? item = none := by
  induction takes generalizing added with
  | nil t =>
    refine ⟨[], by rw [List.append_nil]; exact h, ?_⟩
    rintro item - (hnone | hknown)
    · exact absurd hnone List.not_mem_nil
    · exact hknown
  | cons first rest ih =>
    have hfirst := hsub _ List.mem_cons_self
    obtain ⟨more, grown, known⟩ := h.takes orderly hfirst first
    obtain ⟨more', grown', known'⟩ := ih grown fun item hitem =>
      hsub item (List.mem_cons_of_mem _ hitem)
    refine ⟨more ++ more', by rw [← List.append_assoc]; exact grown', ?_⟩
    rintro item hitem (htaken | hknown)
    · rcases List.mem_cons.1 htaken with rfl | htaken
      · exact known' item hitem (Or.inr known)
      · exact known' item hitem (Or.inl htaken)
    · exact known' item hitem (Or.inr (h.missing?_mono grown orderly hitem hknown))

end GrownBy

/-- Nothing is missing for items of an orderly batch that have been taken in. -/
theorem missing?_of_takesAll {s t : Store} {items taken : List NotificationItem}
    (orderly : s.Orderly items) (hsub : ∀ item ∈ taken, item ∈ items)
    (takes : s.TakesAll taken t) : ∀ item ∈ taken, t.missing? item = none := by
  obtain ⟨more, -, known⟩ := (GrownBy.refl s items).takesAll orderly hsub takes
  exact fun item hitem => known item (hsub item hitem) (Or.inl hitem)

/-- An orderly batch that is taken in after a part of it leaves what it leaves alone. -/
theorem undated_of_redelivered {s t u v : Store} {items taken : List NotificationItem}
    (orderly : s.Orderly items) (hpart : taken <+: items) (once : s.TakesAll items t)
    (part : s.TakesAll taken u) (again : u.TakesAll items v) : v.undated = t.undated := by
  obtain ⟨rest, rfl⟩ := hpart
  obtain ⟨m, honce, hrest⟩ := takesAll_append.1 once
  obtain ⟨u', hagain, hrest'⟩ := takesAll_append.1 again
  obtain rfl : u' = u := hagain.eq_of_known
    (missing?_of_takesAll orderly (fun item hitem => List.mem_append_left _ hitem) part)
  exact hrest'.undated hrest (part.undated honce rfl)

end Store

namespace Engine

/-- In every state, an orderly batch that is delivered once more, after a delivery that may have
ended anywhere, leaves the rows that a single delivery leaves, but for the moments of recording; and
a single delivery leaves nothing of the batch missing. -/
theorem redelivery_records_once (c c₁ c₂ : Collaborators σ) (w : World σ) {text : String}
    {items : List NotificationItem} (decoded : NotificationBatch.decode text = .ok items)
    (orderly : w.store.Orderly items) (single : (takeNotification c₁ text w).1.isOk)
    (again : (takeNotification c₂ text (takeNotification c text w).2).1.isOk) :
    (takeNotification c₂ text (takeNotification c text w).2).2.store.rows.map Row.undated =
        (takeNotification c₁ text w).2.store.rows.map Row.undated ∧
      ∀ item ∈ items, (takeNotification c₁ text w).2.store.missing? item = none := by
  have all : ∀ {d : Collaborators σ} {u : World σ}, (takeNotification d text u).1.isOk →
      u.store.TakesAll items (takeNotification d text u).2.store := by
    intro d u hok
    obtain ⟨taken, -, takes, hall⟩ := takesAll_of_takeNotification decoded
      (rfl : takeNotification d text u = (_, _))
    cases hanswer : (takeNotification d text u).1 with
    | error e =>
      rw [hanswer] at hok
      cases hok
    | ok answer => exact hall answer hanswer ▸ takes
  obtain ⟨taken, hpart, part, -⟩ := takesAll_of_takeNotification decoded
    (rfl : takeNotification c text w = (_, _))
  constructor
  · exact congrArg Store.rows
      (Store.undated_of_redelivered orderly hpart (all single) part (all again))
  · exact Store.missing?_of_takesAll orderly (fun _ hitem => hitem) (all single)

/-- Of two captures the second is not recorded for a failure of the store, and only it is recorded
when both are delivered again. -/
theorem redelivery_records_once_interrupted :
    let good : Collaborators Nat :=
      { settings := {}
        page := none
        clock s := (.ok ⟨63850161600000000, some 0⟩, s)
        freshKey s := ("key", s)
        account id s := (.ok { id }, s)
        externalKey _ _ s := (.ok "key", s)
        openPending _ s := (.ok ⟨"payment", "transaction"⟩, s)
        gateway _ s := (.ok (.purchase
          { result := some .authorised, pspReference := some (if s = 0 then "A" else "B") }), s)
        opening _ s := (.ok (), s)
        committing s := (.ok (), s + 1) }
    let failing : Collaborators Nat :=
      { good with committing s := (if s = 3 then .error .constraintViolated else .ok (), s + 1) }
    let a : Attempt :=
      ⟨"acc", "pay", "a", none, .authorize, some (.finite false 1000 (-2)), some "EUR", []⟩
    let b : Attempt := { a with transactionId := "b" }
    let item (success reference : String) := "\x7b\"NotificationRequestItem\":\x7b" ++
      "\"eventCode\":\"CAPTURE\",\"success\":" ++ success ++
      ",\"pspReference\":\"" ++ reference ++ "\"\x7d\x7d"
    let text :=
      "\x7b\"notificationItems\":[" ++ item "true" "A" ++ "," ++ item "true" "B" ++ "]\x7d"
    let w := run good (initial [] 0) [.payment a, .payment b]
    let broken := takeNotification failing text w
    let once := takeNotification good text w
    let again := takeNotification good text broken.2
    broken.1.isOk = false ∧ broken.2.store.rows.length = 3 ∧ once.2.store.rows.length = 4 ∧
      again.2.store.rows.map Row.undated = once.2.store.rows.map Row.undated := by
  intro good failing a b item text w broken once again
  obtain ⟨hbroken, hthree, hfour, honce, hagain, horderly⟩ : broken.1.isOk = false ∧
      broken.2.store.rows.length = 3 ∧ once.2.store.rows.length = 4 ∧ once.1.isOk = true ∧
      again.1.isOk = true ∧ (match NotificationBatch.decode text with
        | .ok items => decide (w.store.Orderly items)
        | .error _ => false) = true := by
    decide +kernel
  cases decoded : NotificationBatch.decode text with
  | error e =>
    rw [decoded] at horderly
    cases horderly
  | ok items =>
    rw [decoded] at horderly
    refine ⟨hbroken, hthree, hfour, ?_⟩
    unfold again once broken
    obtain ⟨hsame, -⟩ := redelivery_records_once failing good good w decoded
      (of_decide_eq_true horderly) honce hagain
    exact hsame

/-- A capture that failed and then succeeded is recorded twice over when both are delivered
again. -/
theorem redelivery_records_twice :
    let c := Collaborators.steady ⟨63850161600000000, some 0⟩
      (.ok (.purchase { result := some .authorised, pspReference := some "A" }))
    let a : Attempt :=
      ⟨"acc", "pay", "a", none, .authorize, some (.finite false 1000 (-2)), some "EUR", []⟩
    let item (success reference : String) := "\x7b\"NotificationRequestItem\":\x7b" ++
      "\"eventCode\":\"CAPTURE\",\"success\":" ++ success ++
      ",\"pspReference\":\"" ++ reference ++ "\"\x7d\x7d"
    let text :=
      "\x7b\"notificationItems\":[" ++ item "false" "A" ++ "," ++ item "true" "A" ++ "]\x7d"
    let w := run c (initial [] ()) [.payment a]
    let once := takeNotification c text w
    let again := takeNotification c text once.2
    once.1.isOk ∧ again.1.isOk ∧ once.2.store.rows.length = 3 ∧ again.2.store.rows.length = 5 := by
  decide +kernel

end Engine

end CardPayments
