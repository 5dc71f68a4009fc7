import CardPayments.Proofs.Engine.Course
import CardPayments.Proofs.Notification.Item
import CardPayments.Proofs.Record

/-!
# What a delivery leaves behind

Taking an item in adds one row or none, and which of the two depends on the store alone. A delivery
takes its items in one after another; where it ends early, it has taken in those before, and that is
all the trace it leaves. But for the moments of recording, the same items leave the same rows.
-/

namespace CardPayments

variable {σ : Type}

namespace Store

/-- The attempt by which an item would be recorded, if it matches something and breaks no rule. -/
def attempt? (s : Store) (item : NotificationItem) : Option Attempt := do
  let kind ← NotificationItem.kindOfEvent? item.eventCode
  let found ← item.find? s
  match (item.attempt kind found).check with
  | .ok () => some (item.attempt kind found)
  | .error _ => none

/-- The attempt by which an item is recorded, unless the latest row of its transaction tells of it
already. -/
def missing? (s : Store) (item : NotificationItem) : Option Attempt :=
  (s.attempt? item).filter fun a =>
    !(s.latestOf? a.transactionId a.kind).any fun row => item.isRecordedBy row.record

/-- What taking an item in makes of a store. -/
inductive Takes (s : Store) (item : NotificationItem) : Store → Prop
  /-- The item is passed over. -/
  | passed (known : s.missing? item = none) : Takes s item s
  /-- The item is recorded. -/
  | added {a now record} (missing : s.missing? item = some a)
      (made : ResponseRecord.ofResponse a (.notification a.properties) now = .ok record) :
      Takes s item (s.addResponse record).2

/-- What taking one item in after another makes of a store. -/
inductive TakesAll : Store → List NotificationItem → Store → Prop
  /-- Nothing is taken in. -/
  | nil (s : Store) : TakesAll s [] s
  /-- The first item is taken in before the rest. -/
  | cons {s t u : Store} {item : NotificationItem} {items : List NotificationItem}
      (first : Takes s item t) (rest : TakesAll t items u) : TakesAll s (item :: items) u

/-- The attempt of an item that matches something. -/
theorem attempt?_eq {s : Store} {item : NotificationItem} {kind : TransactionType}
    {found : NotificationMatch} (hkind : NotificationItem.kindOfEvent? item.eventCode = some kind)
    (hfound : item.find? s = some found) :
    s.attempt? item = match (item.attempt kind found).check with
      | .ok () => some (item.attempt kind found)
      | .error _ => none := by
  unfold attempt?
  rw [hkind, hfound]
  rfl

/-- Without an attempt nothing is missing. -/
theorem missing?_of_attempt?_none {s : Store} {item : NotificationItem}
    (h : s.attempt? item = none) : s.missing? item = none := by
  unfold missing?
  rw [h]
  rfl

/-- An attempt is missing unless the latest row of its transaction tells of the item. -/
theorem missing?_of_attempt? {s : Store} {item : NotificationItem} {a : Attempt}
    (h : s.attempt? item = some a) :
    s.missing? item =
      if (s.latestOf? a.transactionId a.kind).any fun row => item.isRecordedBy row.record then none
      else some a := by
  unfold missing?
  rw [h, Option.filter_some]
  cases (s.latestOf? a.transactionId a.kind).any fun row => item.isRecordedBy row.record <;> rfl

/-- What is missing is an attempt of the item. -/
theorem attempt?_of_missing? {s : Store} {item : NotificationItem} {a : Attempt}
    (h : s.missing? item = some a) : s.attempt? item = some a :=
  (Option.filter_eq_some_iff.1 h).1

/-- The latest row of its transaction does not tell of what is missing. -/
theorem unrecorded_of_missing? {s : Store} {item : NotificationItem} {a : Attempt}
    (h : s.missing? item = some a) :
    ((s.latestOf? a.transactionId a.kind).any fun row => item.isRecordedBy row.record) = false := by
  have hnot := (Option.filter_eq_some_iff.1 h).2
  rwa [Bool.not_eq_true'] at hnot

/-- An attempt of an item comes of what the item tells and of what it matches. -/
theorem exists_of_attempt? {s : Store} {item : NotificationItem} {a : Attempt}
    (h : s.attempt? item = some a) :
    ∃ kind found, NotificationItem.kindOfEvent? item.eventCode = some kind ∧
      item.find? s = some found ∧ a = item.attempt kind found := by
  obtain ⟨kind, hkind, h⟩ := Option.bind_eq_some_iff.1 h
  obtain ⟨found, hfound, h⟩ := Option.bind_eq_some_iff.1 h
  split at h
  · exact ⟨kind, found, hkind, hfound, (Option.some.inj h).symm⟩
  · cases h

/-- Where nothing is missing, nothing is added. -/
theorem TakesAll.eq_of_known {s t : Store} {items : List NotificationItem}
    (h : TakesAll s items t) (known : ∀ item ∈ items, s.missing? item = none) : t = s := by
  induction h with
  | nil => rfl
  | cons first rest ih =>
    cases first with
    | passed => exact ih fun item hitem => known item (List.mem_cons_of_mem _ hitem)
    | added missing made =>
      rw [known _ List.mem_cons_self] at missing
      cases missing

end Store

/-! ## But for the moments of recording -/

/-- A row without its moment. -/
def Row.undated (row : Row) : Row := { row with record := row.record.undated }

namespace NotificationMatch

/-- A match without the moment of its record. -/
def undated : NotificationMatch → NotificationMatch
  | .response record => .response record.undated
  | found => found

/-- A request matches the same without the moments. -/
theorem undated_ofRequest? (request : HostedRequest) :
    (ofRequest? request).map undated = ofRequest? request := by
  unfold ofRequest?
  split <;> rfl

end NotificationMatch

namespace Store

/-- A store without the moments of its rows. -/
def undated (s : Store) : Store := { s with rows := s.rows.map Row.undated }

/-- A look-up that does not ask for the moment finds the same row without it. -/
theorem latest?_undated (s : Store) {p : ResponseRecord → Bool}
    (hp : ∀ record, p record.undated = p record) :
    s.undated.latest? p = (s.latest? p).map Row.undated := by
  unfold latest? undated
  rw [← List.map_reverse, List.find?_map]
  congr 2
  exact funext fun row => hp row.record

theorem latestOf?_undated (s : Store) (transactionId : String) (kind : TransactionType) :
    s.undated.latestOf? transactionId kind = (s.latestOf? transactionId kind).map Row.undated :=
  s.latest?_undated fun _ => rfl

/-- An item matches the same without the moments. -/
theorem find?_undated (s : Store) (item : NotificationItem) :
    item.find? s.undated = (item.find? s).map NotificationMatch.undated := by
  have hrow : ((nonEmpty item.pspReference).bind fun reference =>
      s.undated.latestByReference? (some reference)) =
      ((nonEmpty item.pspReference).bind fun reference =>
        s.latestByReference? (some reference)).map Row.undated := by
    cases nonEmpty item.pspReference with
    | none => rfl
    | some reference =>
      exact s.latest?_undated (p := fun r => r.pspReference == some reference) fun _ => rfl
  unfold NotificationItem.find?
  rw [hrow]
  cases (nonEmpty item.pspReference).bind fun reference =>
    s.latestByReference? (some reference) with
  | some row => rfl
  | none =>
    dsimp only [Option.map_none]
    cases hrequest : (nonEmpty item.merchantReference).bind s.latestRequest? with
    | none =>
      have hsame : (nonEmpty item.merchantReference).bind s.undated.latestRequest? = none :=
        hrequest
      rw [hsame]
      rfl
    | some row =>
      have hsame : (nonEmpty item.merchantReference).bind s.undated.latestRequest? = some row :=
        hrequest
      rw [hsame]
      exact (NotificationMatch.undated_ofRequest? row.request).symm

/-- The same attempts are missing without the moments. -/
theorem missing?_undated (s : Store) (item : NotificationItem) :
    s.undated.missing? item = s.missing? item := by
  have hattempt : s.undated.attempt? item = s.attempt? item := by
    unfold attempt?
    rw [s.find?_undated]
    cases NotificationItem.kindOfEvent? item.eventCode with
    | none => rfl
    | some kind =>
      cases item.find? s with
      | none => rfl
      | some found => cases found <;> rfl
  unfold missing?
  rw [hattempt]
  congr 1
  funext a
  rw [latestOf?_undated, Option.any_map]
  rfl

/-- A response is added in the same place without the moments. -/
theorem undated_addResponse (s : Store) (record : ResponseRecord) :
    (s.addResponse record).2.undated = (s.undated.addResponse record.undated).2 := by
  have hids : (s.rows.map Row.undated).map Row.id = s.rows.map Row.id := by
    rw [List.map_map]
    rfl
  simp only [undated, addResponse, List.map_append, List.map_cons, List.map_nil, hids]
  rfl

/-- An item makes the same of the same store. -/
theorem Takes.undated {s s' t t' : Store} {item : NotificationItem} (h : Takes s item t)
    (h' : Takes s' item t') (hs : s.undated = s'.undated) : t.undated = t'.undated := by
  have hmissing : s.missing? item = s'.missing? item := by
    rw [← missing?_undated, hs, missing?_undated]
  cases h with
  | passed known =>
    cases h' with
    | passed known' => exact hs
    | added missing' made' =>
      rw [hmissing, missing'] at known
      cases known
  | added missing made =>
    cases h' with
    | passed known' =>
      rw [hmissing, known'] at missing
      cases missing
    | added missing' made' =>
      obtain rfl := Option.some.inj (missing.symm.trans (hmissing.trans missing'))
      rw [undated_addResponse, undated_addResponse, hs,
        ResponseRecord.undated_of_ofResponse made made']

/-- The same items make the same of the same store. -/
theorem TakesAll.undated {s s' t t' : Store} {items : List NotificationItem}
    (h : TakesAll s items t) (h' : TakesAll s' items t') (hs : s.undated = s'.undated) :
    t.undated = t'.undated := by
  induction h generalizing s' with
  | nil =>
    cases h'
    exact hs
  | cons first rest ih =>
    cases h' with
    | cons first' rest' => exact ih rest' (first.undated first' hs)

/-- Items are taken in before those that follow them. -/
theorem takesAll_append {s u : Store} {items more : List NotificationItem} :
    TakesAll s (items ++ more) u ↔ ∃ t, TakesAll s items t ∧ TakesAll t more u := by
  constructor
  · intro h
    induction items generalizing s with
    | nil => exact ⟨s, .nil s, h⟩
    | cons item items ih =>
      cases h with
      | cons first rest =>
        obtain ⟨t, htaken, hmore⟩ := ih rest
        exact ⟨t, .cons first htaken, hmore⟩
  · rintro ⟨t, htaken, hmore⟩
    induction htaken with
    | nil => exact hmore
    | cons first rest ih => exact .cons first (ih hmore)

end Store

/-! ## What the engine makes of a delivery -/

namespace Engine

/-- Looking whether an item is recorded finds what the store says. -/
theorem isRecorded_cases {c : Collaborators σ} {item : NotificationItem} {a : Attempt}
    {w w' : World σ} {r : Outcome Bool} (h : isRecorded c item a w = (r, w')) :
    w.Idle w' ∧ ∀ recorded, r = .ok recorded →
      ((w.store.latestOf? a.transactionId a.kind).any fun row => item.isRecordedBy row.record) =
        recorded := by
  have idle : w.Idle (isRecorded c item a w).2 :=
    (quiet_readStore c _).bind (fun _ => quiet_pure _) w
  rw [h] at idle
  refine ⟨idle, ?_⟩
  rintro recorded rfl
  obtain ⟨row, w₁, hread, hpure⟩ := exists_of_bind_ok h
  obtain ⟨hrecorded, -⟩ := Prod.mk.inj hpure
  rw [readStore_ok hread]
  exact Except.ok.inj hrecorded

/-- An item is passed over where it is recorded, and else recorded, unless a fault stops it. -/
theorem recordItem_cases {c : Collaborators σ} {item : NotificationItem} {a : Attempt}
    {w w' : World σ} {r : Outcome Unit}
    (flagged : a.properties.affirms Property.fromHostedPage = true)
    (h : recordItem c item a w = (r, w')) :
    (w'.store = w.store ∧ ∃ e, r = .error e) ∨
      (w'.store = w.store ∧
        ((w.store.latestOf? a.transactionId a.kind).any fun row =>
          item.isRecordedBy row.record) = true) ∨
      (((w.store.latestOf? a.transactionId a.kind).any fun row =>
          item.isRecordedBy row.record) = false ∧
        ∃ now record, ResponseRecord.ofResponse a (.notification a.properties) now = .ok record ∧
          w'.store = (w.store.addResponse record).2) := by
  obtain ⟨e, hx, rfl⟩ | ⟨recorded, w₁, hx, h⟩ := bind_cases h
  · exact Or.inl ⟨(isRecorded_cases hx).1.store, e, rfl⟩
  obtain ⟨idle, hrecorded⟩ := isRecorded_cases hx
  cases recorded with
  | true =>
    obtain ⟨-, rfl⟩ := Prod.mk.inj h
    exact Or.inr (Or.inl ⟨idle.store, hrecorded true rfl⟩)
  | false =>
    have unflagged : a.properties.affirms Property.fromHostedPage ≠ false := by
      rw [flagged]
      exact Bool.noConfusion
    obtain ⟨told, hprocess, hfault⟩ : ∃ told, process c a w₁ = (told, w') ∧
        ∀ e, told = .error e → r = .error e := by
      obtain ⟨e, hx, rfl⟩ | ⟨info, w₂, hx, h⟩ := bind_cases h
      · exact ⟨_, hx, fun e' he => congrArg Except.error (Except.error.inj he)⟩
      · obtain ⟨rfl, rfl⟩ := Prod.mk.inj h
        exact ⟨_, hx, fun e he => by cases he⟩
    cases course_of_process hprocess with
    | refused idle' early => exact Or.inl ⟨idle'.store.trans idle.store, _, hfault _ rfl⟩
    | noted flagged' made becomes =>
      refine Or.inr (Or.inr ⟨hrecorded false rfl, _, _, made, ?_⟩)
      rw [becomes.store, idle.store]
    | replayed unflagged' => exact absurd unflagged' unflagged
    | failed due => exact absurd due.unflagged unflagged
    | lost due => exact absurd due.unflagged unflagged
    | recorded due => exact absurd due.unflagged unflagged

/-- Taking an item in leaves the store as it was and ends in a fault, or makes of it what the item
makes of it. -/
theorem takeItem_cases {c : Collaborators σ} {item : NotificationItem} {w w' : World σ}
    {r : Outcome Unit} (h : takeItem c item w = (r, w')) :
    w.store.Takes item w'.store ∨ (w'.store = w.store ∧ ∃ e, r = .error e) := by
  have passed : w.store.missing? item = none → w'.store = w.store →
      w.store.Takes item w'.store := fun hmissing hstore => by
    rw [hstore]
    exact .passed hmissing
  unfold takeItem at h
  cases hkind : NotificationItem.kindOfEvent? item.eventCode with
  | none =>
    rw [hkind] at h
    obtain ⟨-, rfl⟩ := Prod.mk.inj h
    refine Or.inl (passed (Store.missing?_of_attempt?_none ?_) rfl)
    unfold Store.attempt?
    rw [hkind]
    rfl
  | some kind =>
    rw [hkind] at h
    have idle := quiet_readStore c item.find? w
    obtain ⟨e, hx, rfl⟩ | ⟨found, w₁, hx, h⟩ := bind_cases h
    · rw [hx] at idle
      exact Or.inr ⟨idle.store, e, rfl⟩
    have hfound := readStore_ok hx
    rw [hx] at idle
    cases found with
    | none =>
      obtain ⟨-, rfl⟩ := Prod.mk.inj h
      refine Or.inl (passed (Store.missing?_of_attempt?_none ?_) idle.store)
      unfold Store.attempt?
      rw [hkind, hfound]
      rfl
    | some found =>
      have hattempt := Store.attempt?_eq hkind hfound
      dsimp only at h
      cases hcheck : (item.attempt kind found).check with
      | ok =>
        rw [hcheck] at hattempt h
        have hmissing := Store.missing?_of_attempt? hattempt
        rcases recordItem_cases item.affirms_properties h with
          ⟨hstore, hfault⟩ | ⟨hstore, hknown⟩ | ⟨hunknown, now, record, made, hstore⟩
        · exact Or.inr ⟨hstore.trans idle.store, hfault⟩
        · rw [idle.store] at hknown
          rw [hknown] at hmissing
          exact Or.inl (passed hmissing (hstore.trans idle.store))
        · rw [idle.store] at hunknown
          rw [hunknown] at hmissing
          rw [hstore, idle.store]
          exact Or.inl (.added hmissing made)
      | error e =>
        rw [hcheck] at hattempt h
        dsimp only at h
        by_cases hbusiness : e.isBusiness = true
        · rw [if_pos hbusiness] at h
          obtain ⟨-, rfl⟩ := Prod.mk.inj h
          exact Or.inl (passed (Store.missing?_of_attempt?_none hattempt) idle.store)
        · rw [if_neg hbusiness] at h
          obtain ⟨rfl, rfl⟩ := Prod.mk.inj h
          exact Or.inr ⟨idle.store, e, rfl⟩

/-- A delivery takes in the items before the one at which it ends, and all of them if it ends
without a fault. -/
theorem takesAll_of_forM {c : Collaborators σ} {items : List NotificationItem} {w w' : World σ}
    {r : Outcome Unit} (h : items.forM (takeItem c) w = (r, w')) :
    ∃ taken, taken <+: items ∧ w.store.TakesAll taken w'.store ∧ (r = .ok () → taken = items) := by
  induction items generalizing w with
  | nil =>
    obtain ⟨-, rfl⟩ := Prod.mk.inj h
    exact ⟨[], List.prefix_refl _, .nil _, fun _ => rfl⟩
  | cons item items ih =>
    obtain ⟨e, hx, rfl⟩ | ⟨_, w₁, hx, h⟩ := bind_cases h
    · rcases takeItem_cases hx with takes | ⟨hstore, -⟩
      · exact ⟨[item], List.prefix_append [item] items, .cons takes (.nil _), fun he => by cases he⟩
      · rw [hstore]
        exact ⟨[], List.nil_prefix, .nil _, fun he => by cases he⟩
    · obtain ⟨taken, hpart, takes', hall⟩ := ih h
      rcases takeItem_cases hx with takes | ⟨-, e, he⟩
      · exact ⟨item :: taken, (List.cons_prefix_cons.2 ⟨rfl, hpart⟩), .cons takes takes',
          fun hok => congrArg _ (hall hok)⟩
      · cases he

/-- So does a delivery of a batch that can be read. -/
theorem takesAll_of_takeNotification {c : Collaborators σ} {s : String}
    {items : List NotificationItem} (decoded : NotificationBatch.decode s = .ok items)
    {w w' : World σ} {r : Outcome String} (h : takeNotification c s w = (r, w')) :
    ∃ taken, taken <+: items ∧ w.store.TakesAll taken w'.store ∧
      (∀ answer, r = .ok answer → taken = items) := by
  obtain ⟨e, hx, rfl⟩ | ⟨items', w₁, hx, h⟩ := bind_cases h
  · obtain ⟨he, -⟩ := ofOutcome_eq hx
    rw [decoded] at he
    cases he
  obtain ⟨hok, rfl⟩ := ofOutcome_eq hx
  obtain rfl := Except.ok.inj (decoded.symm.trans hok)
  obtain ⟨e, hx, rfl⟩ | ⟨_, w₂, hx, h⟩ := bind_cases h
  · obtain ⟨taken, hpart, takes, -⟩ := takesAll_of_forM hx
    exact ⟨taken, hpart, takes, fun answer he => by cases he⟩
  · obtain ⟨-, rfl⟩ := Prod.mk.inj h
    obtain ⟨taken, hpart, takes, hall⟩ := takesAll_of_forM hx
    exact ⟨taken, hpart, takes, fun _ _ => hall rfl⟩

end Engine

end CardPayments
