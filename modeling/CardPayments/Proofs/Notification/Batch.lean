import CardPayments.Proofs.Notification.Amount
import CardPayments.Proofs.Notification.Extras
import CardPayments.Proofs.Record

/-!
# Decoding a batch item by item

A batch with any items is decoded if each of its items can be decoded in a batch of its own, and
then item by item, whatever else the envelopes hold. Otherwise it is refused as a whole, with the
defects of all items, each under the number of its item. Only a text that cannot be read is refused
with a single defect, however many of its items cannot be read.
-/

namespace CardPayments

open Json Json.Document

/-! ## Lists side by side -/

section
variable {α β γ : Type}

/-- Lists that agree with one list between them agree with each other. -/
theorem forall₂_comp_iff {R : α → β → Prop} {S : β → γ → Prop} {as : List α} {cs : List γ} :
    (∃ bs, List.Forall₂ R as bs ∧ List.Forall₂ S bs cs) ↔
      List.Forall₂ (fun a c => ∃ b, R a b ∧ S b c) as cs := by
  constructor
  · rintro ⟨bs, hR, hS⟩
    induction hR generalizing cs with
    | nil =>
      cases hS
      exact .nil
    | cons hab _ ih =>
      cases hS with
      | cons hbc hS => exact .cons ⟨_, hab, hbc⟩ (ih hS)
  · intro h
    induction h with
    | nil => exact ⟨[], .nil, .nil⟩
    | cons hac _ ih =>
      obtain ⟨b, hab, hbc⟩ := hac
      obtain ⟨bs, hR, hS⟩ := ih
      exact ⟨b :: bs, .cons hab hR, .cons hbc hS⟩

/-- A list has a counterpart if every place beside it says that its item has one. -/
theorem exists_forall₂_iff {R : α → β → Prop} {S : α → γ → Prop} {P : β → Prop} {as : List α}
    {bs : List β} (h : List.Forall₂ R as bs) (hplace : ∀ a b, R a b → ((∃ c, S a c) ↔ P b)) :
    (∃ cs, List.Forall₂ S as cs) ↔ ∀ b ∈ bs, P b := by
  induction h with
  | nil => simp
  | cons hab _ ih =>
    rw [List.forall_mem_cons, ← ih, ← hplace _ _ hab]
    simp only [List.forall₂_cons_left_iff]
    constructor
    · rintro ⟨_, c, cs, hc, hcs, rfl⟩
      exact ⟨⟨c, hc⟩, cs, hcs⟩
    · rintro ⟨⟨c, hc⟩, cs, hcs⟩
      exact ⟨_, c, cs, hc, hcs, rfl⟩

end

/-! ## Envelopes -/

namespace Json.Document

/-- Entries behind others have the names and values of both. -/
theorem entryValues?_append {opened : Nat} (before after : List (List Stroke × Document)) :
    entryValues? opened (before ++ after) = (entryValues? opened before).bind fun first =>
      (entryValues? opened after).map (first ++ ·) := by
  induction before with
  | nil => simp [entryValues?]
  | cons entry before ih =>
    obtain ⟨key, value⟩ := entry
    rw [List.cons_append, entryValues?, entryValues?, ih]
    cases Stroke.read? key <;> cases value.value? opened <;>
      cases entryValues? opened before <;> cases entryValues? opened after <;> rfl

/-- A name that no key reads as is not among the names of entries. -/
theorem not_mem_names {opened : Nat} {entries : List (List Stroke × Document)} {bag : Bag}
    (hbag : entryValues? opened entries = some bag) {name : String}
    (h : ∀ entry ∈ entries, Stroke.read? entry.1 ≠ some name.toList) :
    name ∉ bag.map Prod.fst := by
  have hentries := entryValues?_eq_some_iff.1 hbag
  clear hbag
  induction hentries with
  | nil => exact List.not_mem_nil
  | cons hentry _ ih =>
    obtain ⟨hfirst, hrest⟩ := List.forall_mem_cons.1 h
    rw [List.map_cons, List.mem_cons, not_or]
    refine ⟨?_, ih hrest⟩
    rintro rfl
    exact hfirst hentry.1

end Json.Document

namespace NotificationBatch

/-- A table whose other fields pass is checked item by item. -/
theorem ofEnvelope_of_live {bag : Bag} {vs : List Value} {live : Option String}
    (hlive : Checked.withDefault "live" none (Checked.nullable Checked.text) (bag.get? "live") =
      .ok live) (hitems : bag.get? "notificationItems" = some (.list vs)) :
    ofEnvelope bag =
      Checked.under (.field "notificationItems") (Checked.each NotificationItem.ofWrapper vs) := by
  unfold ofEnvelope
  rw [hlive, hitems]
  change Checked.apply _ (Checked.under _ (Checked.each NotificationItem.ofWrapper vs)) = _
  cases Checked.each NotificationItem.ofWrapper vs <;> rfl

/-- An envelope: the entries in front of the items, their key as it is written, and the entries
behind them. -/
structure Envelope where
  /-- The entries in front of the items. -/
  before : List (List Stroke × Document)
  /-- The key of the items. -/
  key : List Stroke
  /-- The entries behind the items. -/
  after : List (List Stroke × Document)

namespace Envelope

/-- The batch of items in an envelope. -/
def around (e : Envelope) (items : List Document) : Document :=
  .table (e.before ++ (e.key, .list items) :: e.after)

/-- An envelope that is all right but for its items. -/
structure IsValid (e : Envelope) : Prop where
  /-- The key is that of the items. -/
  key : Stroke.read? e.key = some "notificationItems".toList
  /-- No other entry takes their place. -/
  last : ∀ entry ∈ e.after, Stroke.read? entry.1 ≠ some "notificationItems".toList
  /-- Without items the envelope is a batch of none. -/
  accepted : ∃ v, (e.around []).value? 0 = some v ∧ Checked.object ofEnvelope v = .ok []

/-- The entries of a valid envelope have names and values. -/
theorem IsValid.exists_entries {e : Envelope} (h : e.IsValid) :
    ∃ first rest, entryValues? 1 e.before = some first ∧ entryValues? 1 e.after = some rest := by
  obtain ⟨v, hv, -⟩ := h.accepted
  obtain ⟨-, bag, hbag, -⟩ := value?_table_eq_some_iff.1 hv
  rw [entryValues?_append] at hbag
  obtain ⟨first, hfirst, hbag⟩ := Option.bind_eq_some_iff.1 hbag
  obtain ⟨behind, hbehind, -⟩ := Option.map_eq_some_iff.1 hbag
  obtain ⟨_, rest, -, hrest, -⟩ :=
    List.forall₂_cons_left_iff.1 (entryValues?_eq_some_iff.1 hbehind)
  exact ⟨first, rest, hfirst, entryValues?_eq_some_iff.2 hrest⟩

/-- The table that a valid envelope stands for with items in it. -/
def table (first rest : Bag) (vs : List Value) : Bag :=
  Bag.onto (first ++ ("notificationItems", .list vs) :: rest) []

/-- A valid envelope has a value if all of its items have one. -/
theorem IsValid.value?_around {e : Envelope} (h : e.IsValid) {first rest : Bag}
    (hfirst : entryValues? 1 e.before = some first) (hrest : entryValues? 1 e.after = some rest)
    (items : List Document) :
    (e.around items).value? 0 =
      (itemValues? 2 items).map fun vs => .table (table first rest vs) := by
  have hlist : (Document.list items).value? 1 = (itemValues? 2 items).map .list := by
    ext v
    rw [value?_list_eq_some_iff, Option.map_eq_some_iff]
    simp [deepest, eq_comm]
  have hentries : entryValues? 1 (e.before ++ (e.key, .list items) :: e.after) =
      (itemValues? 2 items).map fun vs => first ++ ("notificationItems", .list vs) :: rest := by
    rw [entryValues?_append, hfirst, entryValues?, h.key, hrest, hlist]
    cases itemValues? 2 items <;> simp
  ext v
  rw [around, value?_table_eq_some_iff, hentries, Option.map_eq_some_iff]
  constructor
  · rintro ⟨-, bag, hbag, rfl⟩
    obtain ⟨vs, hvs, rfl⟩ := Option.map_eq_some_iff.1 hbag
    exact ⟨vs, hvs, rfl⟩
  · rintro ⟨vs, hvs, rfl⟩
    exact ⟨fun _ => by decide, _, Option.map_eq_some_iff.2 ⟨vs, hvs, rfl⟩, rfl⟩

/-- In it, the items are found, and everything else as without them. -/
theorem get?_table {first rest : Bag} (h : "notificationItems" ∉ rest.map Prod.fst)
    (vs : List Value) (name : String) :
    Bag.get? (table first rest vs) name = if name = "notificationItems" then some (.list vs)
      else (Bag.get? rest.reverse name).or (Bag.get? first.reverse name) := by
  rw [table, Bag.get?_onto, List.reverse_append, List.reverse_cons, List.append_assoc,
    Bag.get?_append, List.singleton_append, Bag.get?_cons, Bag.get?_nil, Option.or_none]
  split
  · rename_i hname
    have hnone : Bag.get? rest.reverse name = none :=
      Bag.get?_eq_none (by rwa [List.map_reverse, List.mem_reverse, hname])
    rw [hnone, Option.none_or]
  · rfl

/-- A valid envelope is checked item by item. -/
theorem IsValid.ofEnvelope_table {e : Envelope} (h : e.IsValid) {first rest : Bag}
    (hfirst : entryValues? 1 e.before = some first) (hrest : entryValues? 1 e.after = some rest)
    (vs : List Value) : ofEnvelope (table first rest vs) =
      Checked.under (.field "notificationItems") (Checked.each NotificationItem.ofWrapper vs) := by
  have hlast := not_mem_names hrest h.last
  obtain ⟨v, hv, haccepted⟩ := h.accepted
  have hempty := h.value?_around hfirst hrest []
  rw [hv, itemValues?, Option.map_some] at hempty
  obtain rfl := Option.some.inj hempty
  obtain ⟨_, _, hfields, -, -⟩ := Checked.seq_eq_ok_iff.1 haccepted
  obtain ⟨live, hlive, -⟩ := Checked.fmap_eq_ok_iff.1 hfields
  have hsame : Bag.get? (table first rest vs) "live" = Bag.get? (table first rest []) "live" := by
    rw [get?_table hlast, get?_table hlast]
    rfl
  rw [← hsame] at hlive
  exact ofEnvelope_of_live hlive (by rw [get?_table hlast, if_pos rfl])

end Envelope

/-- Whether a text is a batch of these items, in some valid envelope. -/
def IsBatch (items : List Document) (s : String) : Prop :=
  ∃ e : Envelope, e.IsValid ∧ (e.around items).Writes s

/-- Whether a text can be read as JSON. -/
def IsReadable (s : String) : Prop := ∃ v, Json.read .strict s = .ok v

/-- A text can be read if the document that it writes has a value. -/
theorem isReadable_of_writes {document : Document} {s : String} (h : document.Writes s) :
    IsReadable s ↔ (document.value? 0).isSome := by
  rw [← read_of_writes h]
  unfold IsReadable
  cases Json.read .strict s <;> simp [Except.toOption]

/-- What is wrong with a text. -/
def defects (s : String) : List Defect := (ofText s).found

variable {items : List Document} {s : String}

/-- A batch can be read if its items can, and is then checked item by item. -/
theorem ofText_of_isBatch (h : IsBatch items s) :
    ofText s = match itemValues? 2 items with
      | some vs => Checked.under (.field "notificationItems")
          (Checked.each NotificationItem.ofWrapper vs)
      | none => Checked.fail .jsonInvalid := by
  obtain ⟨e, hvalid, hwrites⟩ := h
  obtain ⟨first, rest, hfirst, hrest⟩ := hvalid.exists_entries
  rw [ofText_of_writes hwrites, hvalid.value?_around hfirst hrest]
  cases itemValues? 2 items with
  | none => rfl
  | some vs => exact hvalid.ofEnvelope_table hfirst hrest vs

/-- A batch can be read if its items can. -/
theorem isReadable_of_isBatch (h : IsBatch items s) :
    IsReadable s ↔ ∃ vs, itemValues? 2 items = some vs := by
  obtain ⟨e, hvalid, hwrites⟩ := h
  obtain ⟨first, rest, hfirst, hrest⟩ := hvalid.exists_entries
  rw [isReadable_of_writes hwrites, hvalid.value?_around hfirst hrest, Option.isSome_map,
    Option.isSome_iff_exists]

/-! ## Decoding -/

/-- A text that cannot be read has one defect. -/
theorem defects_of_not_isReadable (h : ¬ IsReadable s) : defects s = [⟨.jsonInvalid, []⟩] := by
  unfold defects ofText
  cases hread : Json.read .strict s with
  | ok v => exact absurd ⟨v, hread⟩ h
  | error fault => rfl

/-- Whether an item stands for a value that is checked to be this. -/
def ChecksAs (document : Document) (checked : Option ReportedAmount × NotificationItem) : Prop :=
  ∃ v, document.value? 2 = some v ∧ NotificationItem.ofWrapper v = .ok checked

/-- Whether it is priced then, as this. -/
def Yields (document : Document) (item : NotificationItem) : Prop :=
  ∃ checked, ChecksAs document checked ∧
    NotificationItem.priced checked.1 checked.2 = .ok item

/-- A batch passes the check item by item. -/
theorem ofText_eq_ok_iff (h : IsBatch items s)
    {checked : List (Option ReportedAmount × NotificationItem)} :
    ofText s = .ok checked ↔ List.Forall₂ ChecksAs items checked := by
  unfold ChecksAs
  rw [ofText_of_isBatch h, ← forall₂_comp_iff]
  simp only [← itemValues?_eq_some_iff]
  cases itemValues? 2 items with
  | none => simp [Checked.fail]
  | some vs => simp [Checked.under_eq_ok_iff, Checked.each, Checked.eachFrom_eq_ok_iff]

/-- A batch is decoded item by item. -/
theorem decode_eq_ok_iff (h : IsBatch items s) {found : List NotificationItem} :
    decode s = .ok found ↔ List.Forall₂ Yields items found := by
  unfold Yields
  rw [← forall₂_comp_iff]
  simp only [← ofText_eq_ok_iff h, ← mapM_eq_ok_iff]
  unfold decode
  cases ofText s with
  | ok checked => simp
  | defects ds => simp

/-- An item that passes the check is priced. -/
theorem ChecksAs.exists_priced {document : Document}
    {checked : Option ReportedAmount × NotificationItem} (h : ChecksAs document checked) :
    ∃ item, NotificationItem.priced checked.1 checked.2 = .ok item := by
  obtain ⟨v, hv, hchecked⟩ := h
  exact NotificationItem.exists_priced hchecked fun _ => lt_of_holds document hv

/-- A batch that is not decoded is refused with its defects. -/
theorem decode_eq_refused (h : IsBatch items s) (hfails : ∀ found, decode s ≠ .ok found) :
    decode s = .error (refused (defects s)) := by
  have hdefects : ofText s = .defects (defects s) := by
    refine Checked.eq_defects fun checked hchecked => ?_
    have hitems := (ofText_eq_ok_iff h).1 hchecked
    have hyields : ∃ found, List.Forall₂ Yields items found := by
      clear hchecked hfails h
      induction hitems with
      | nil => exact ⟨[], .nil⟩
      | @cons _ checked _ _ hfirst _ ih =>
        obtain ⟨item, hitem⟩ := hfirst.exists_priced
        obtain ⟨found, hfound⟩ := ih
        exact ⟨item :: found, .cons ⟨checked, hfirst, hitem⟩ hfound⟩
    obtain ⟨found, hfound⟩ := hyields
    exact hfails found ((decode_eq_ok_iff h).2 hfound)
  unfold decode
  rw [hdefects]

/-! ## One batch and many -/

/-- A defect of the only item of a batch, told of an item with another number. -/
def renumbered (i : Nat) (d : Defect) : Defect :=
  match d.path with
  | first :: .index 0 :: rest => { d with path := first :: .index i :: rest }
  | _ => d

/-- What is wrong with batches of one item each, told of the items of one batch. -/
def gathered (singles : List String) : List Defect :=
  (singles.zipIdx).flatMap fun single => (defects single.1).map (renumbered single.2)

/-- How one batch of items is decoded, compared to batches of one item each. -/
structure DecodesItemwise (s : String) (singles : List String) : Prop where
  /-- The batch is decoded if each item is. -/
  succeeds : (∃ found, decode s = .ok found) ↔
    ∀ single ∈ singles, ∃ found, decode single = .ok found
  /-- Then it has what they have, one for each of them, in order. -/
  items : ∀ found, decode s = .ok found →
    List.Forall₂ (fun single item => decode single = .ok [item]) singles found
  /-- Otherwise it is refused as a whole, with what is wrong with it. -/
  refused : (∀ found, decode s ≠ .ok found) → decode s = .error (refused (defects s))
  /-- If it can be read, that is what is wrong with its items, in order, each under its number. -/
  defects_eq : IsReadable s → defects s = gathered singles
  /-- If not, it is that, and some item cannot be read either and has the same defect. -/
  unreadable : ¬ IsReadable s → defects s = [⟨.jsonInvalid, []⟩] ∧
    ∃ single ∈ singles, ¬ IsReadable single ∧ defects single = [⟨.jsonInvalid, []⟩]

variable {singles : List String}

/-- An item alone in a batch can be read if it stands for a value. -/
theorem isReadable_single {item : Document} {single : String} (h : IsBatch [item] single) :
    IsReadable single ↔ ∃ v, item.value? 2 = some v := by
  rw [isReadable_of_isBatch h]
  simp [itemValues?_eq_some_iff, List.forall₂_cons_left_iff]

/-- Its defects are then those of the value, in its place. -/
theorem defects_single {item : Document} {single : String} (h : IsBatch [item] single) {v : Value}
    (hv : item.value? 2 = some v) :
    defects single = (NotificationItem.ofWrapper v).found.map fun d =>
      (d.below (.index 0)).below (.field "notificationItems") := by
  have hvs : itemValues? 2 [item] = some [v] :=
    itemValues?_eq_some_iff.2 (.cons hv .nil)
  unfold defects
  rw [ofText_of_isBatch h, hvs]
  simp [Checked.found_under, Checked.each, Checked.found_eachFrom]

/-- It is decoded if it yields an item, and then to that item alone. -/
theorem decode_single_eq_ok_iff {item : Document} {single : String} (h : IsBatch [item] single)
    {found : List NotificationItem} :
    decode single = .ok found ↔ ∃ told, Yields item told ∧ found = [told] := by
  simp [decode_eq_ok_iff h, List.forall₂_cons_left_iff]

/-- The defects of items in batches of their own are those of the items in one batch. -/
theorem gathered_eq {vs : List Value}
    (h : List.Forall₂ (fun v single => defects single = (NotificationItem.ofWrapper v).found.map
      fun d => (d.below (.index 0)).below (.field "notificationItems")) vs singles) :
    gathered singles = (Checked.under (.field "notificationItems")
      (Checked.each NotificationItem.ofWrapper vs)).found := by
  rw [Checked.found_under, Checked.each, Checked.found_eachFrom]
  unfold gathered
  generalize 0 = first
  induction h generalizing first with
  | nil => rfl
  | cons hsingle _ ih =>
    rw [List.zipIdx_cons, List.zipIdx_cons, List.flatMap_cons, List.flatMap_cons, List.map_append,
      ih, hsingle, List.map_map, List.map_map]
    rfl

section
variable (batch : IsBatch items s)
  (split : List.Forall₂ (fun item single => IsBatch [item] single) items singles)
include batch split

/-- One batch is decoded if all of its items are. -/
theorem exists_decode_iff :
    (∃ found, decode s = .ok found) ↔ ∀ single ∈ singles, ∃ found, decode single = .ok found := by
  have hitems := exists_forall₂_iff split (S := Yields)
    (P := fun single => ∃ found, decode single = .ok found) fun item single h => by
      simp [decode_single_eq_ok_iff h]
  simpa only [← decode_eq_ok_iff batch] using hitems

/-- One batch has the items of all. -/
theorem decode_singles {found : List NotificationItem} (h : decode s = .ok found) :
    List.Forall₂ (fun single item => decode single = .ok [item]) singles found := by
  have hyields := (decode_eq_ok_iff batch).1 h
  have hflipped : List.Forall₂ (fun single item => IsBatch [item] single) singles items :=
    List.Forall₂.flip split
  refine (forall₂_comp_iff.1 ⟨items, hflipped, hyields⟩).imp ?_
  rintro single told ⟨item, hsingle, htold⟩
  exact (decode_single_eq_ok_iff hsingle).2 ⟨told, htold, rfl⟩

/-- One batch can be read if all of its items can. -/
theorem isReadable_iff : IsReadable s ↔ ∀ single ∈ singles, IsReadable single := by
  have hitems := exists_forall₂_iff split (S := fun item v => item.value? 2 = some v)
    (P := IsReadable) fun item single h => (isReadable_single h).symm
  simpa only [← itemValues?_eq_some_iff, ← isReadable_of_isBatch batch] using hitems

/-- What is wrong with one batch that can be read is what is wrong with its items. -/
theorem defects_eq_gathered (h : IsReadable s) : defects s = gathered singles := by
  obtain ⟨vs, hvs⟩ := (isReadable_of_isBatch batch).1 h
  have hvalues : List.Forall₂ (fun v item => Document.value? 2 item = some v) vs items :=
    List.Forall₂.flip (itemValues?_eq_some_iff.1 hvs)
  have hsingles := (forall₂_comp_iff.1 ⟨items, hvalues, split⟩).imp (S := fun v single =>
    defects single = (NotificationItem.ofWrapper v).found.map fun d =>
      (d.below (.index 0)).below (.field "notificationItems"))
    fun v single ⟨item, hv, hsingle⟩ => defects_single hsingle hv
  rw [gathered_eq hsingles]
  unfold defects
  rw [ofText_of_isBatch batch, hvs]

/-- What is wrong with one batch that cannot be read is wrong with some of its items. -/
theorem exists_unreadable (h : ¬ IsReadable s) :
    ∃ single ∈ singles, ¬ IsReadable single ∧ defects single = [⟨.jsonInvalid, []⟩] := by
  rw [isReadable_iff batch split] at h
  push Not at h
  obtain ⟨single, hmem, hsingle⟩ := h
  exact ⟨single, hmem, hsingle, defects_of_not_isReadable hsingle⟩

end

/-- An envelope with nothing but its items. -/
def plainEnvelope : Envelope := ⟨[], "notificationItems".toList.map .plain, []⟩

theorem isValid_plainEnvelope : plainEnvelope.IsValid where
  key := by decide
  last := by simp [plainEnvelope]
  accepted := ⟨_, rfl, rfl⟩

/-- Items that can be written can be written in such an envelope. -/
theorem isBatch_plainEnvelope {items : List Document}
    (h : ∀ item ∈ items, ∀ lexeme ∈ item.lexemes, lexeme.IsLegal) :
    IsBatch items (plainEnvelope.around items).plainText := by
  refine ⟨plainEnvelope, isValid_plainEnvelope, writes_plainText ?_⟩
  have hkey : (Lexeme.quoted plainEnvelope.key).IsLegal := by decide
  change ∀ lexeme ∈ _ :: _ :: _ :: ((Document.list items).lexemes ++ [_]), lexeme.IsLegal
  simp only [List.forall_mem_cons, List.forall_mem_append]
  exact ⟨trivial, hkey, trivial, isLegal_list h, trivial, by simp⟩

/-- Decoding a batch is decoding its items, all or nothing: it succeeds if every item can be decoded
in a batch of its own, gives one item for each, and otherwise is refused with what is wrong with
each of them, unless the text cannot be read. Entries that nobody looks up do not matter to a text
that can be read, whether they stand in the envelope, in a wrapper or in an item. -/
theorem decode_itemwise :
    (∀ (items : List Document) (s : String) (singles : List String), IsBatch items s →
      List.Forall₂ (fun item single => IsBatch [item] single) items singles →
      DecodesItemwise s singles) ∧
    ∀ (document other : Document) (s t : String), document.Writes s → other.Writes t →
      bare document = bare other → IsReadable s → IsReadable t → decode s = decode t := by
  constructor
  · intro items s singles batch split
    exact {
      succeeds := exists_decode_iff batch split
      items := fun _ => decode_singles batch split
      refused := decode_eq_refused batch
      defects_eq := defects_eq_gathered batch split
      unreadable := fun h => ⟨defects_of_not_isReadable h, exists_unreadable batch split h⟩ }
  · intro document other s t hs ht hbare hreadable hother
    have htext := ofText_eq_of_bare hs ht ((isReadable_of_writes hs).1 hreadable)
      ((isReadable_of_writes ht).1 hother) hbare
    unfold decode
    rw [htext]

/-- A capture in its wrapper, with something that nobody looks up. -/
def aCapture : Document :=
  .table [("NotificationRequestItem".toList.map .plain, .table [
    ("eventCode".toList.map .plain, .quoted ("CAPTURE".toList.map .plain)),
    ("operations".toList.map .plain, .list []),
    ("success".toList.map .plain, .quoted ("true".toList.map .plain))])]

/-- An item that does not tell what happened. -/
def aSilence : Document :=
  .table [("NotificationRequestItem".toList.map .plain, .table [
    ("success".toList.map .plain, .word "true".toList)])]

/-- An envelope that says that it is live. -/
def liveEnvelope : Envelope :=
  ⟨[("live".toList.map .plain, .quoted ("true".toList.map .plain))],
    "notificationItems".toList.map .plain, []⟩

/-- A capture and an item without an event are refused together for the latter, and what nobody
looks up changes nothing. -/
theorem decode_itemwise_capture :
    let both := (liveEnvelope.around [aCapture, aSilence]).plainText
    let capture := (plainEnvelope.around [aCapture]).plainText
    let silence := (plainEnvelope.around [aSilence]).plainText
    let bareCapture := (bare (plainEnvelope.around [aCapture])).plainText
    IsBatch [aCapture, aSilence] both ∧ IsBatch [aCapture] capture ∧ IsBatch [aSilence] silence ∧
      DecodesItemwise both [capture, silence] ∧ decode capture = decode bareCapture := by
  intro both capture silence bareCapture
  have hvalid : liveEnvelope.IsValid :=
    { key := by decide, last := by simp [liveEnvelope], accepted := ⟨_, rfl, rfl⟩ }
  have hcapture : ∀ lexeme ∈ aCapture.lexemes, lexeme.IsLegal := by decide
  have hsilence : ∀ lexeme ∈ aSilence.lexemes, lexeme.IsLegal := by decide
  have hboth : IsBatch [aCapture, aSilence] both :=
    ⟨liveEnvelope, hvalid, writes_plainText (by decide)⟩
  have hfirst : IsBatch [aCapture] capture := isBatch_plainEnvelope (by simpa using hcapture)
  have hsecond : IsBatch [aSilence] silence := isBatch_plainEnvelope (by simpa using hsilence)
  have hwrites : (plainEnvelope.around [aCapture]).Writes capture := writes_plainText (by decide)
  have hbare : (bare (plainEnvelope.around [aCapture])).Writes bareCapture :=
    writes_plainText (by decide)
  refine ⟨hboth, hfirst, hsecond,
    decode_itemwise.1 _ _ _ hboth (.cons hfirst (.cons hsecond .nil)),
    decode_itemwise.2 _ _ _ _ hwrites hbare rfl ?_ ?_⟩
  · exact (isReadable_of_writes hwrites).2 rfl
  · exact (isReadable_of_writes hbare).2 rfl

/-! ## Items that are too deep -/

/-- Lists in a list, so many around an empty one. -/
def nested : Nat → Document
  | 0 => .list []
  | n + 1 => .list [nested n]

/-- Lists that nest too deep have no value. -/
theorem value?_nested (n : Nat) {opened : Nat} (h : deepest < opened + (n + 1)) :
    (nested (n + 1)).value? opened = none := by
  rw [Option.eq_none_iff_forall_ne_some]
  intro v hv
  obtain ⟨hdeep, vs, hvs, -⟩ := value?_list_eq_some_iff.1 hv
  have hopened := hdeep (List.cons_ne_nil _ _)
  cases n with
  | zero => omega
  | succ n =>
    obtain ⟨_, _, hinner, -⟩ := List.forall₂_cons_left_iff.1 (itemValues?_eq_some_iff.1 hvs)
    rw [value?_nested n (by omega)] at hinner
    cases hinner

theorem isLegal_nested (n : Nat) : ∀ lexeme ∈ (nested n).lexemes, lexeme.IsLegal := by
  induction n with
  | zero => exact isLegal_list (by simp)
  | succ n ih => exact isLegal_list (by simpa using ih)

/-- An item without a value has the same single defect alone and beside itself. -/
theorem shared_defect {item : Document} (hlegal : ∀ lexeme ∈ item.lexemes, lexeme.IsLegal)
    (hnone : item.value? 2 = none) :
    let both := (plainEnvelope.around [item, item]).plainText
    let single := (plainEnvelope.around [item]).plainText
    IsBatch [item, item] both ∧ IsBatch [item] single ∧
      decode both = .error (refused [⟨.jsonInvalid, []⟩]) ∧
      defects both = [⟨.jsonInvalid, []⟩] ∧
      gathered [single, single] = [⟨.jsonInvalid, []⟩, ⟨.jsonInvalid, []⟩] := by
  intro both single
  have hboth : IsBatch [item, item] both :=
    isBatch_plainEnvelope (by simpa using hlegal)
  have hsingle : IsBatch [item] single :=
    isBatch_plainEnvelope (by simpa using hlegal)
  have hunreadable : ofText both = Checked.fail .jsonInvalid := by
    rw [ofText_of_isBatch hboth, itemValues?, hnone]
    rfl
  have hdefects : defects single = [⟨.jsonInvalid, []⟩] := by
    refine defects_of_not_isReadable fun hreadable => ?_
    obtain ⟨v, hv⟩ := (isReadable_single hsingle).1 hreadable
    rw [hnone] at hv
    cases hv
  refine ⟨hboth, hsingle, ?_, ?_, ?_⟩
  · unfold decode
    rw [hunreadable]
    rfl
  · unfold defects
    rw [hunreadable]
    rfl
  · simp [gathered, hdefects, renumbered]

/-- Two items that nest too deep have one defect in one batch, and one each in two batches. -/
theorem deep_items_share_defect :
    let both := (plainEnvelope.around [nested 300, nested 300]).plainText
    let single := (plainEnvelope.around [nested 300]).plainText
    IsBatch [nested 300, nested 300] both ∧ IsBatch [nested 300] single ∧
      decode both = .error (refused [⟨.jsonInvalid, []⟩]) ∧
      defects both = [⟨.jsonInvalid, []⟩] ∧
      gathered [single, single] = [⟨.jsonInvalid, []⟩, ⟨.jsonInvalid, []⟩] :=
  shared_defect (isLegal_nested 300) (value?_nested 299 (by decide))

end NotificationBatch

end CardPayments
