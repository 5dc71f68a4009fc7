import CardPayments.Notification.Item
import CardPayments.Proofs.Bag
import CardPayments.Proofs.Checked
import CardPayments.Proofs.Json.Reading

/-!
# Entries that nobody looks up

An envelope, a wrapper and an item are looked up under certain names. Leaving out the entries under
all other names keeps what is found under these, from the inside out, and so keeps what the batch is
checked to be.
-/

namespace CardPayments

namespace Json.Document

/-! ## Leaving entries out -/

/-- An entry as it is kept: under one of the names, and with something done to its value. -/
def keepEntry (names : List String) (inside : String → Document → Document)
    (entry : List Stroke × Document) : Option (List Stroke × Document) :=
  match Stroke.read? entry.1 with
  | some cs =>
    if String.ofList cs ∈ names then some (entry.1, inside (String.ofList cs) entry.2) else none
  | none => none

/-- A table without the entries under other names. -/
def keeping (names : List String) (inside : String → Document → Document) : Document → Document
  | .table entries => .table (entries.filterMap (keepEntry names inside))
  | document => document

/-- A list with something done to every item. -/
def eachItem (f : Document → Document) : Document → Document
  | .list items => .list (items.map f)
  | document => document

/-- Whether documents that stand for a value still do when something is done to them, and how the
two values are related. -/
def Carries (R : Value → Value → Prop) (f : Document → Document) : Prop :=
  ∀ {opened : Nat} {document : Document} {v : Value}, document.value? opened = some v →
    ∃ w, (f document).value? opened = some w ∧ R v w

/-- How two lists are related item by item. Any other value is related to itself alone. -/
def InItems (R : Value → Value → Prop) (v w : Value) : Prop :=
  v = w ∨ ∃ vs ws, v = .list vs ∧ w = .list ws ∧ List.Forall₂ R vs ws

/-- How two tables are related by what is found under names. Any other value is related to itself
alone. -/
def UnderNames (names : List String) (R : String → Value → Value → Prop) (v w : Value) : Prop :=
  v = w ∨ ∃ bag kept, v = .table bag ∧ w = .table kept ∧
    ∀ name ∈ names, Option.Rel (R name) (Bag.get? bag name) (Bag.get? kept name)

variable {names : List String} {inside : String → Document → Document} {f : Document → Document}

/-- Doing nothing keeps every value. -/
theorem carries_self : Carries Eq fun document => document :=
  fun {_ _ v} h => ⟨v, h, rfl⟩

/-- What is related to itself alone is the same. -/
theorem eq_of_rel_eq {v w : Option Value} (h : Option.Rel Eq v w) : v = w := by
  cases h with
  | none => rfl
  | some heq => rw [heq]

/-- What is done to items is done to a list. -/
theorem carries_eachItem {R : Value → Value → Prop} (h : Carries R f) :
    Carries (InItems R) (eachItem f) := by
  intro opened document v hvalue
  cases document with
  | word | quoted | table => exact ⟨v, hvalue, Or.inl rfl⟩
  | list items =>
    obtain ⟨hdeep, vs, hvs, rfl⟩ := value?_list_eq_some_iff.1 hvalue
    have hcarried : ∃ ws, List.Forall₂ (fun item w => item.value? (opened + 1) = some w)
        (items.map f) ws ∧ List.Forall₂ R vs ws := by
      have hitems := itemValues?_eq_some_iff.1 hvs
      clear hvs hdeep hvalue
      induction hitems with
      | nil => exact ⟨[], .nil, .nil⟩
      | cons hitem _ ih =>
        obtain ⟨w, hw, hrelated⟩ := h hitem
        obtain ⟨ws, hws, hrest⟩ := ih
        exact ⟨w :: ws, .cons hw hws, .cons hrelated hrest⟩
    obtain ⟨ws, hws, hrelated⟩ := hcarried
    have hlist : (eachItem f (.list items)).value? opened = some (.list ws) :=
      value?_list_eq_some_iff.2 ⟨fun hne => hdeep (by simpa using hne), ws,
        itemValues?_eq_some_iff.2 hws, rfl⟩
    exact ⟨_, hlist, Or.inr ⟨vs, ws, rfl, rfl, hrelated⟩⟩

/-- What is found under a kept name is what was found there. -/
theorem exists_kept {R : String → Value → Value → Prop}
    (h : ∀ name ∈ names, Carries (R name) (inside name)) {opened : Nat}
    {entries : List (List Stroke × Document)} {bag : Bag}
    (hbag : List.Forall₂ (fun entry named => Stroke.read? entry.1 = some named.1.toList ∧
      entry.2.value? opened = some named.2) entries bag) :
    ∃ kept : Bag, List.Forall₂ (fun entry named => Stroke.read? entry.1 = some named.1.toList ∧
        entry.2.value? opened = some named.2) (entries.filterMap (keepEntry names inside)) kept ∧
      ∀ name ∈ names, Option.Rel (R name) (Bag.get? bag.reverse name)
        (Bag.get? kept.reverse name) := by
  induction hbag with
  | nil => exact ⟨[], .nil, fun _ _ => .none⟩
  | @cons entry named entries bag hentry _ ih =>
    obtain ⟨hname, hvalue⟩ := hentry
    obtain ⟨kept, hkept, hrelated⟩ := ih
    have hget : ∀ (bag : Bag) (named : String × Value) (name : String),
        Bag.get? (named :: bag).reverse name =
          (Bag.get? bag.reverse name).or (if name = named.1 then some named.2 else none) := by
      intro bag named name
      rw [List.reverse_cons, Bag.get?_append, Bag.get?_cons, Bag.get?_nil]
    by_cases hmem : named.1 ∈ names
    · obtain ⟨w, hw, hcarried⟩ := h named.1 hmem hvalue
      have hkeep : keepEntry names inside entry = some (entry.1, inside named.1 entry.2) := by
        simp [keepEntry, hname, hmem]
      refine ⟨(named.1, w) :: kept, ?_, fun name hknown => ?_⟩
      · rw [List.filterMap_cons_some hkeep]
        exact .cons ⟨hname, hw⟩ hkept
      · rw [hget, hget]
        have hrest := hrelated name hknown
        generalize Bag.get? bag.reverse name = found at hrest ⊢
        generalize Bag.get? kept.reverse name = keptFound at hrest ⊢
        cases hrest with
        | some hvalue => exact .some hvalue
        | none =>
          by_cases heq : name = named.1
          · subst heq
            simpa using Option.Rel.some hcarried
          · simp [heq]
    · have hdrop : keepEntry names inside entry = none := by
        simp [keepEntry, hname, hmem]
      refine ⟨kept, ?_, fun name hknown => ?_⟩
      · rw [List.filterMap_cons_none hdrop]
        exact hkept
      · have hother : name ≠ named.1 := fun heq => hmem (heq ▸ hknown)
        rw [hget, if_neg hother, Option.or_none]
        exact hrelated name hknown

/-- Leaving entries out of a table keeps what is found under the other names. -/
theorem carries_keeping {R : String → Value → Value → Prop}
    (h : ∀ name ∈ names, Carries (R name) (inside name)) :
    Carries (UnderNames names R) (keeping names inside) := by
  intro opened document v hvalue
  cases document with
  | word | quoted | list => exact ⟨v, hvalue, Or.inl rfl⟩
  | table entries =>
    obtain ⟨hdeep, bag, hbag, rfl⟩ := value?_table_eq_some_iff.1 hvalue
    obtain ⟨kept, hkept, hrelated⟩ := exists_kept h (entryValues?_eq_some_iff.1 hbag)
    have htable : (keeping names inside (.table entries)).value? opened =
        some (.table (Bag.onto kept [])) :=
      value?_table_eq_some_iff.2 ⟨fun hne => hdeep fun hnil => hne (by rw [hnil]; rfl), kept,
        entryValues?_eq_some_iff.2 hkept, rfl⟩
    refine ⟨_, htable, Or.inr ⟨_, _, rfl, rfl, fun name hname => ?_⟩⟩
    rw [Bag.get?_onto, Bag.get?_onto, Bag.get?_nil, Option.or_none, Option.or_none]
    exact hrelated name hname

end Json.Document

open Json Json.Document

/-! ## Items -/

namespace NotificationItem

/-- The names under which an item is looked up. -/
def names : List String :=
  ["eventCode", "event_code", "success", "pspReference", "psp_reference", "originalReference",
    "original_reference", "merchantReference", "merchant_reference", "merchantAccountCode",
    "merchant_account_code", "reason", "paymentMethod", "payment_method", "amount", "eventDate",
    "event_date", "additionalData", "additional_data"]

/-- An item depends on what is found under its names. -/
theorem ofBag_congr {bag kept : Bag} (h : ∀ name ∈ names, bag.get? name = kept.get? name) :
    ofBag bag = ofBag kept := by
  simp only [names, List.forall_mem_cons] at h
  simp only [ofBag, optional, field, h]

/-- An item without the entries that nobody looks up. -/
def bare : Document → Document := keeping names fun _ document => document

/-- A wrapper without the entries that nobody looks up, also in its item. -/
def bareWrapper : Document → Document := keeping ["NotificationRequestItem"] fun _ => bare

/-- Leaving such entries out of an item keeps its check. -/
theorem carries_bare :
    Carries (fun v w => Checked.object ofBag v = Checked.object ofBag w) bare := by
  intro opened document v hvalue
  obtain ⟨w, hw, hrelated⟩ := carries_keeping (fun _ _ => carries_self) hvalue
  refine ⟨w, hw, ?_⟩
  rcases hrelated with rfl | ⟨bag, kept, rfl, rfl, hnames⟩
  · rfl
  · exact ofBag_congr fun name hname => eq_of_rel_eq (hnames name hname)

/-- So it does for a wrapper. -/
theorem carries_bareWrapper :
    Carries (fun v w => ofWrapper v = ofWrapper w) bareWrapper := by
  intro opened document v hvalue
  obtain ⟨w, hw, hrelated⟩ := carries_keeping (fun _ _ => carries_bare) hvalue
  refine ⟨w, hw, ?_⟩
  rcases hrelated with rfl | ⟨bag, kept, rfl, rfl, hnames⟩
  · rfl
  · exact Checked.required_congr (hnames "NotificationRequestItem" List.mem_cons_self)

end NotificationItem

/-! ## Batches -/

namespace NotificationBatch

/-- An envelope without the entries that nobody looks up, also in its wrappers and their items. -/
def bare : Document → Document :=
  keeping ["live", "notificationItems"] fun name =>
    if name = "notificationItems" then eachItem NotificationItem.bareWrapper else id

/-- Lists whose items are checked alike are checked alike. -/
theorem list_congr {α : Type} {check : Value → Checked α} {v w : Value}
    (h : InItems (fun v w => check v = check w) v w) :
    Checked.list check v = Checked.list check w := by
  rcases h with rfl | ⟨vs, ws, rfl, rfl, hitems⟩
  · rfl
  · exact Checked.eachFrom_congr hitems

/-- An envelope depends on what is found under its names, and on the items for their check. -/
theorem ofEnvelope_congr {bag kept : Bag} (hlive : bag.get? "live" = kept.get? "live")
    (hitems : Option.Rel (fun v w => Checked.list NotificationItem.ofWrapper v =
      Checked.list NotificationItem.ofWrapper w)
      (bag.get? "notificationItems") (kept.get? "notificationItems")) :
    ofEnvelope bag = ofEnvelope kept := by
  unfold ofEnvelope
  rw [hlive, Checked.withDefault_congr hitems]

/-- Leaving such entries out of an envelope keeps its check. -/
theorem carries_bare :
    Carries (fun v w => Checked.object ofEnvelope v = Checked.object ofEnvelope w) bare := by
  intro opened document v hvalue
  have hinside : ∀ name ∈ ["live", "notificationItems"],
      Carries (fun v w => if name = "notificationItems" then
          Checked.list NotificationItem.ofWrapper v = Checked.list NotificationItem.ofWrapper w
        else v = w)
        (if name = "notificationItems" then eachItem NotificationItem.bareWrapper else id) := by
    intro name _
    split
    · intro opened document v hvalue
      obtain ⟨w, hw, hrelated⟩ := carries_eachItem NotificationItem.carries_bareWrapper hvalue
      exact ⟨w, hw, list_congr hrelated⟩
    · exact carries_self
  obtain ⟨w, hw, hrelated⟩ := carries_keeping hinside hvalue
  refine ⟨w, hw, ?_⟩
  rcases hrelated with rfl | ⟨bag, kept, rfl, rfl, hnames⟩
  · rfl
  · exact ofEnvelope_congr (eq_of_rel_eq (hnames "live" (by simp)))
      (hnames "notificationItems" (by simp))

/-- The check of a text that writes an envelope is that of its value. -/
theorem ofText_of_writes {document : Document} {s : String} (h : document.Writes s) :
    ofText s = match document.value? 0 with
      | some v => Checked.object ofEnvelope v
      | none => Checked.fail .jsonInvalid := by
  have hread := read_of_writes h
  unfold ofText
  rw [← hread]
  cases Json.read .strict s <;> rfl

/-- Texts that differ in entries that nobody looks up are checked alike, if both can be read. -/
theorem ofText_eq_of_bare {document other : Document} {s t : String} (hs : document.Writes s)
    (ht : other.Writes t) (hreadable : (document.value? 0).isSome)
    (hother : (other.value? 0).isSome) (hbare : bare document = bare other) :
    ofText s = ofText t := by
  obtain ⟨v, hv⟩ := Option.isSome_iff_exists.1 hreadable
  obtain ⟨w, hw⟩ := Option.isSome_iff_exists.1 hother
  obtain ⟨v', hv', hcheck⟩ := carries_bare hv
  obtain ⟨w', hw', hcheck'⟩ := carries_bare hw
  rw [hbare, hw'] at hv'
  obtain rfl := Option.some.inj hv'
  rw [ofText_of_writes hs, ofText_of_writes ht, hv, hw]
  exact hcheck.trans hcheck'.symm

end NotificationBatch

end CardPayments
