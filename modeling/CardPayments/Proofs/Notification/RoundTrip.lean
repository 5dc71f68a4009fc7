import CardPayments.Proofs.Notification.Batch
import CardPayments.Proofs.Notification.Report

/-!
# Reports arrive

However the envelope around reports is spelled, its text is decoded into one item for each report,
in order and with what was reported. There is such a text for all reports.
-/

namespace CardPayments

open Json Json.Document
open Json.Stroke (spells_of_read?)

namespace Report

/-! ## Writing a report -/

/-- The value of an amount. -/
def amountValue (reported : ReportedAmount) : Value :=
  .table [("value", .int reported.units), ("currency", .text reported.currency)]

/-- A table with all names, in which null stands for what the report lacks. -/
def entries (r : Report) : Bag :=
  [("eventCode", .text r.eventCode), ("success", .bool r.success),
    ("pspReference", .ofText? r.pspReference), ("originalReference", .ofText? r.originalReference),
    ("merchantReference", .ofText? r.merchantReference),
    ("merchantAccountCode", .ofText? r.merchantAccount), ("reason", .ofText? r.reason),
    ("paymentMethod", .ofText? r.paymentMethod), ("amount", (r.amount.map amountValue).getD .null),
    ("eventDate", .ofText? r.eventDate), ("additionalData", .table r.data)]

theorem tells_ofText? (told : Option String) : Tells TellsText told (some (.ofText? told)) := by
  cases told with
  | none => exact .null
  | some s => exact .told rfl

theorem tells_amountValue (told : Option ReportedAmount) :
    Tells TellsAmount told (some ((told.map amountValue).getD .null)) := by
  cases told with
  | none => exact .null
  | some reported => exact .told .unitsFirst

/-- Such a table tells the report. -/
theorem isItem_entries (r : Report) : r.IsItem r.entries where
  distinct := (by decide : Report.names.Nodup)
  names := fun _ hname => hname
  eventCode := rfl
  success := ⟨_, rfl, .bool⟩
  pspReference := tells_ofText? r.pspReference
  originalReference := tells_ofText? r.originalReference
  merchantReference := tells_ofText? r.merchantReference
  merchantAccount := tells_ofText? r.merchantAccount
  reason := tells_ofText? r.reason
  paymentMethod := tells_ofText? r.paymentMethod
  amount := tells_amountValue r.amount
  eventDate := tells_ofText? r.eventDate
  additionalData := .told r.data

theorem isWritten_ofText? (told : Option String) : IsWritten (.ofText? told) := by
  cases told with
  | none => exact isWritten_null
  | some s => exact isWritten_text s

theorem isWritten_amountValue (told : Option ReportedAmount) :
    IsWritten ((told.map amountValue).getD .null) := by
  cases told with
  | none => exact isWritten_null
  | some reported =>
    exact isWritten_table (by decide : ["value", "currency"].Nodup) (List.forall_mem_cons.2
      ⟨isWritten_int _, List.forall_mem_singleton.2 (isWritten_text _)⟩)

/-- It can be written. -/
theorem isWritten_entries (r : Report) : IsWritten (.table r.entries) := by
  have hdata : IsWritten (.table r.data) := by
    refine isWritten_table ?_ (List.forall_mem_map.2 fun entry _ => isWritten_text entry.2)
    have hnames : r.data.map Prod.fst = r.additionalData.map Prod.fst := by
      rw [data, List.map_map]
      rfl
    rw [Bag.Distinct, hnames]
    exact r.distinct
  refine isWritten_table r.isItem_entries.distinct ?_
  simp only [entries, List.forall_mem_cons]
  exact ⟨isWritten_text _, isWritten_bool _, isWritten_ofText? _, isWritten_ofText? _,
    isWritten_ofText? _, isWritten_ofText? _, isWritten_ofText? _, isWritten_ofText? _,
    isWritten_amountValue _, isWritten_ofText? _, hdata, List.forall_mem_nil _⟩

end Report

/-! ## Batches of reports -/

namespace NotificationBatch

/-- A table that is an envelope of reports. -/
structure IsEnvelope (reports : List Report) (bag : Bag) : Prop where
  /-- Every name is there once. -/
  distinct : bag.Distinct
  /-- No other names are there. -/
  names : ∀ name ∈ bag.map Prod.fst, name ∈ ["live", "notificationItems"]
  /-- Whether the batch is live, if that is told. -/
  live : ∃ live, Report.Tells Report.TellsText live (bag.get? "live")
  /-- The reports, in order. -/
  items : ∃ vs, bag.get? "notificationItems" = some (.list vs) ∧
    List.Forall₂ Report.IsWrapped reports vs

/-- Whether a text tells reports: it writes an envelope of them, spelled in any way. -/
def Tells (reports : List Report) (s : String) : Prop :=
  ∃ (document : Document) (bag : Bag), document.Spells (.table bag) ∧ document.Writes s ∧
    IsEnvelope reports bag

variable {reports : List Report} {bag : Bag} {s : String}

/-- An envelope is within the limits of a reader. -/
theorem IsEnvelope.fits (h : IsEnvelope reports bag) : Fits 5 (.table bag) := by
  obtain ⟨live, hlive⟩ := h.live
  obtain ⟨vs, hvs, hwrapped⟩ := h.items
  have hitems : ∀ v ∈ vs, Fits 3 v := by
    clear hvs h
    induction hwrapped with
    | nil => exact List.forall_mem_nil _
    | cons hfirst _ ih =>
      obtain ⟨inner, rfl, hitem⟩ := hfirst
      exact List.forall_mem_cons.2 ⟨List.forall_mem_singleton.2 hitem.fits, ih⟩
  have hfound : ∀ name ∈ ["live", "notificationItems"], ∀ v, bag.get? name = some v → Fits 4 v := by
    simp only [List.forall_mem_cons]
    refine ⟨hlive.fits ?_, ?_, List.forall_mem_nil _⟩
    · rintro s - v rfl
      trivial
    · intro v hv
      obtain rfl := Option.some.inj (hvs.symm.trans hv)
      exact hitems
  intro entry hentry
  exact hfound _ (h.names _ (List.mem_map_of_mem hentry)) _ (Bag.get?_of_mem h.distinct hentry)

/-- An envelope passes the check, and has what the reports have. -/
theorem IsEnvelope.ofEnvelope_eq (h : IsEnvelope reports bag) :
    ofEnvelope bag = .ok (reports.map fun r => (r.amount, r.unpriced)) := by
  obtain ⟨live, hlive⟩ := h.live
  obtain ⟨vs, hvs, hwrapped⟩ := h.items
  rw [ofEnvelope_of_live (Report.withDefault_of_tells Report.text_of_tellsText _ hlive) hvs,
    Checked.under_eq_ok_iff, Checked.each, Checked.eachFrom_eq_ok_iff]
  rw [List.forall₂_map_right_iff]
  refine hwrapped.flip.imp ?_
  rintro v r ⟨inner, rfl, hitem⟩
  exact Checked.required_eq_ok_iff.2 ⟨_, rfl, hitem.ofBag_eq⟩

/-- So does a text that tells the reports. -/
theorem ofText_of_tells (h : Tells reports s) :
    ofText s = .ok (reports.map fun r => (r.amount, r.unpriced)) := by
  obtain ⟨document, bag, hspells, hwrites, henvelope⟩ := h
  rw [ofText_of_writes hwrites, value?_of_spells hspells henvelope.fits (by decide)]
  exact henvelope.ofEnvelope_eq

/-- There is a text that tells them. -/
theorem exists_tells (reports : List Report) : ∃ s, Tells reports s := by
  let wrapped (r : Report) : Value := .table [("NotificationRequestItem", .table r.entries)]
  let bag : Bag := [("notificationItems", .list (reports.map wrapped))]
  have hdistinct : bag.Distinct := List.nodup_singleton _
  have hitems : IsWritten (.list (reports.map wrapped)) :=
    isWritten_list (List.forall_mem_map.2 fun r _ =>
      isWritten_table (List.nodup_singleton _) (List.forall_mem_singleton.2 r.isWritten_entries))
  obtain ⟨document, hspells, hlegal⟩ :=
    isWritten_table hdistinct (List.forall_mem_singleton.2 hitems)
  exact ⟨_, document, bag, hspells, writes_plainText hlegal, {
    distinct := hdistinct
    names := by simp [bag]
    live := ⟨none, .leftOut⟩
    items := ⟨_, rfl, List.forall₂_map_right_iff.2
      (List.forall₂_same.2 fun r _ => ⟨_, rfl, r.isItem_entries⟩)⟩ }⟩

/-- Reports can be told, and however they are told, they arrive: one item for each report, in order
and with its fields. -/
theorem decode_reports (reports : List Report) : (∃ s, Tells reports s) ∧
    ∀ s, Tells reports s →
      ∃ items, decode s = .ok items ∧ List.Forall₂ Report.Arrives reports items := by
  refine ⟨exists_tells reports, fun s h => ?_⟩
  choose item hpriced harrives using Report.exists_arrives
  refine ⟨reports.map item, ?_,
    List.forall₂_map_right_iff.2 (List.forall₂_same.2 fun r _ => harrives r)⟩
  unfold decode
  rw [ofText_of_tells h]
  exact mapM_eq_ok_iff.2 (List.forall₂_map_left_iff.2 (List.forall₂_map_right_iff.2
    (List.forall₂_same.2 fun r _ => hpriced r)))

/-- A refusal with an amount of three places and a reason that is not easy to write. -/
def aRefusal : Report where
  eventCode := "AUTHORISATION"
  success := false
  pspReference := some "8835"
  reason := some "\"né\"\n\\😀"
  amount := some ⟨-1005, "kwd"⟩
  additionalData := [("avs/result", "4 \t")]
  units_lt := by
    rintro reported hreported
    obtain rfl := Option.some.inj hreported
    norm_num
  distinct := by decide

/-- Its table, in an order of its own. -/
def aRefusalTable : Bag :=
  [("additionalData", .table [("avs/result", .text "4 \t")]), ("reason", .text "\"né\"\n\\😀"),
    ("amount", .table [("currency", .text "kwd"), ("value", .int (-1005))]),
    ("originalReference", .null), ("success", .text "FaLSe"), ("eventCode", .text "AUTHORISATION"),
    ("pspReference", .text "8835")]

theorem isItem_aRefusalTable : aRefusal.IsItem aRefusalTable where
  distinct := by decide
  names := by decide
  eventCode := rfl
  success := ⟨_, rfl, .word (by decide)⟩
  pspReference := .told rfl
  originalReference := .null
  merchantReference := .leftOut
  merchantAccount := .leftOut
  reason := .told rfl
  paymentMethod := .leftOut
  amount := .told .currencyFirst
  eventDate := .leftOut
  additionalData := .told _

/-- The table as it is written: with a line break, a backslash and a character beyond the basic
plane as codes, and with other characters behind backslashes. -/
def aRefusalDocument : Document :=
  .table [
    ("additionalData".toList.map .plain, .table [
      ("avs".toList.map .plain ++ .escape '/' '/' :: "result".toList.map .plain,
        .quoted [.plain '4', .plain ' ', .escape 't' '\t'])]),
    ("reason".toList.map .plain, .quoted [.escape '"' '"', .plain 'n', .plain 'é', .escape '"' '"',
      .code 0xa "000A".toList, .code 0x5c "005c".toList, .code 0xd83d "D83d".toList,
      .code 0xde00 "dE00".toList]),
    ("amount".toList.map .plain, .table [
      ("currency".toList.map .plain, .quoted ("kwd".toList.map .plain)),
      ("value".toList.map .plain, .word (Text.ofInt (-1005)).toList)]),
    ("originalReference".toList.map .plain, .word "null".toList),
    ("success".toList.map .plain, .quoted ("FaLSe".toList.map .plain)),
    (.code 0x65 "0065".toList :: "ventCode".toList.map .plain,
      .quoted ("AUTHORISATION".toList.map .plain)),
    ("pspReference".toList.map .plain, .quoted ("8835".toList.map .plain))]

/-- So it is spelled. -/
theorem spells_aRefusalDocument : aRefusalDocument.Spells (.table aRefusalTable) := by
  refine .table (by decide) (.cons (spells_of_read? (by decide)) ?_ <|
    .cons (spells_of_read? (by decide)) ?_ <| .cons (spells_of_read? (by decide)) ?_ <|
    .cons (spells_of_read? (by decide)) .null <| .cons (spells_of_read? (by decide)) ?_ <|
    .cons (spells_of_read? (by decide)) ?_ <| .cons (spells_of_read? (by decide)) ?_ .nil)
  · exact .table (by decide) (.cons (spells_of_read? (by decide))
      (.text (spells_of_read? (by decide))) .nil)
  · exact .text (spells_of_read? (by decide))
  · exact .table (by decide) (.cons (spells_of_read? (by decide))
      (.text (spells_of_read? (by decide))) (.cons (spells_of_read? (by decide)) (.int _) .nil))
  · exact .text (spells_of_read? (by decide))
  · exact .text (spells_of_read? (by decide))
  · exact .text (spells_of_read? (by decide))

/-- With blanks everywhere, the refusal arrives. -/
theorem decode_reports_refusal :
    let wrapper := Document.table
      [("NotificationRequestItem".toList.map .plain, aRefusalDocument)]
    let batch := liveEnvelope.around [wrapper]
    let text := String.ofList
      (batch.lexemes.flatMap fun lexeme => "\r\n\t ".toList ++ lexeme.text)
    Tells [aRefusal] text ∧
      ∃ items, decode text = .ok items ∧ List.Forall₂ Report.Arrives [aRefusal] items := by
  intro wrapper batch text
  have hwrapper : wrapper.Spells (.table [("NotificationRequestItem", .table aRefusalTable)]) :=
    .table (List.nodup_singleton _)
      (.cons (spells_of_read? (by decide)) spells_aRefusalDocument .nil)
  have hbatch : batch.Spells (.table [("live", .text "true"),
      ("notificationItems", .list [.table [("NotificationRequestItem", .table aRefusalTable)]])]) :=
    .table (by decide) (.cons (spells_of_read? (by decide)) (.text (spells_of_read? (by decide))) <|
      .cons (spells_of_read? (by decide)) (.list (.cons hwrapper .nil)) .nil)
  have htells : Tells [aRefusal] text := ⟨batch, _, hbatch,
    writes_spaced (by decide) (List.all_eq_true.1 (by decide)),
    { distinct := by decide
      names := by decide
      live := ⟨_, .told rfl⟩
      items := ⟨_, rfl, .cons ⟨_, rfl, isItem_aRefusalTable⟩ .nil⟩ }⟩
  exact ⟨htells, (decode_reports [aRefusal]).2 text htells⟩

end NotificationBatch

end CardPayments
