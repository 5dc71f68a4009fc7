import CardPayments.Proofs.Affirmed
import CardPayments.Proofs.Engine.AppendOnly
import CardPayments.Proofs.Engine.Progress

/-!
# From the form to the notification

A form leaves its request in the store and sends the shopper off with its key. A notification that
comes back under the key finds the request, whatever has been written meanwhile, as long as no newer
request has taken the key, and it is recorded under the pending payment that was opened along with
the form. Whether that is an authorization or a purchase is decided twice, by the properties as they
are and by the properties as they are kept, and both agree.
-/

namespace CardPayments

variable {σ : Type}

/-- Whether the forms of a page tell the key of the payment as the merchant's reference. -/
def HostedPage.TellsKey (page : HostedPage) : Prop :=
  ∀ merchantAccount payment user split fields,
    page.fields merchantAccount payment user split = .ok fields →
      fields.lookup "merchantReference" = some payment.externalKey

/-- Unsigned forms do. -/
theorem HostedPage.tellsKey_unsigned (target : String) : TellsKey ⟨target, unsignedFields⟩ := by
  intro merchantAccount payment user split fields hfields
  change unsignedFields merchantAccount payment user split = .ok fields at hfields
  unfold unsignedFields at hfields
  split at hfields
  · split at hfields
    · obtain rfl := Except.ok.inj hfields
      cases merchantAccount <;> rfl
    · cases hfields
  · cases hfields

/-! ## The request is found again -/

namespace Store

/-- The request that was filed last under a key is the latest one of the key. -/
theorem latestRequest?_of_requests {s : Store} {earlier later : List RequestRow} {row : RequestRow}
    (hrequests : s.requests = earlier ++ row :: later)
    (hlater : ∀ r ∈ later, r.request.externalKey ≠ row.request.externalKey) :
    s.latestRequest? row.request.externalKey = some row := by
  have hnone : later.reverse.find?
      (fun r => r.request.externalKey == row.request.externalKey) = none := by
    rw [List.find?_eq_none]
    intro r hr
    simpa using hlater r (List.mem_reverse.1 hr)
  unfold latestRequest?
  rw [hrequests, List.reverse_append, List.reverse_cons, List.find?_append, List.find?_append,
    hnone]
  simp

end Store

/-! ## The item is missing -/

/-- An attempt passes its check by its identifiers, an amount that is not negative and a currency of
three letters. -/
theorem Attempt.check_eq_ok {a : Attempt} (account : a.accountId ≠ "") (payment : a.paymentId ≠ "")
    (transaction : a.transactionId ≠ "") {amount : Decimal} (hamount : a.amount = some amount)
    (nonnegative : amount.isNegative? = some false) {currency : String}
    (hcurrency : a.currency = some currency) (letters : isCurrencyCode currency = true) :
    a.check = .ok () := by
  have hnonempty : currency ≠ "" := by
    rintro rfl
    cases letters
  have present : a.checkPresence = .ok () := by
    simp [checkPresence, hamount, hcurrency, hnonempty]
  have hnonnegative : checkAmount a.amount = .ok () := by
    simp only [checkAmount, hamount, nonnegative]
  have hletters : checkCurrency a.currency = .ok () := by
    simp [checkCurrency, hcurrency, letters]
  unfold check checkId
  rw [if_neg account, if_neg payment, if_neg transaction, present, hnonnegative, hletters]
  rfl

namespace NotificationItem

/-- Whether an item tells of an authorization whose gateway reference, if it has one, no row of a
store bears, and of an amount that is not negative in a currency of three letters. -/
structure Authorizes (item : NotificationItem) (s : Store) : Prop where
  /-- It tells of an authorization. -/
  event : item.eventCode = authorisation
  /-- Its gateway reference is on no row. -/
  unknown : ∀ reference, item.pspReference = some reference → reference ≠ "" →
    ∀ row ∈ s.rows, row.record.pspReference ≠ some reference
  /-- Its amount is not negative. -/
  amount : ∃ amount, item.amount = some amount ∧ amount.isNegative? = some false
  /-- Its currency is three letters. -/
  currency : ∃ currency, item.currency = some currency ∧ isCurrencyCode currency = true

variable {item : NotificationItem} {s : Store}

/-- What no row is found for is matched to the latest request of its key. -/
theorem find?_of_latestRequest? (h : item.Authorizes s) {key paymentId transactionId : String}
    (hkey : item.merchantReference = some key) (key_ne : key ≠ "") {row : RequestRow}
    (hlatest : s.latestRequest? key = some row)
    (hpayment : row.request.paymentId = some paymentId) (payment_ne : paymentId ≠ "")
    (htransaction : row.request.transactionId = some transactionId)
    (transaction_ne : transactionId ≠ "") :
    item.find? s = some (.request row.request.accountId paymentId transactionId row.request) := by
  have hrow : ((nonEmpty item.pspReference).bind fun reference =>
      s.latestByReference? (some reference)) = none := by
    rw [Option.bind_eq_none_iff]
    intro reference hreference
    obtain ⟨hreference, nonempty⟩ := nonEmpty_eq_some_iff.1 hreference
    refine Store.latest?_eq_none_iff.2 fun row hmem => ?_
    exact beq_eq_false_iff_ne.2 (h.unknown reference hreference nonempty row hmem)
  unfold find?
  rw [hrow, nonEmpty_eq_some_iff.2 ⟨hkey, key_ne⟩, Option.bind_some, hlatest, Option.bind_some]
  dsimp only
  unfold NotificationMatch.ofRequest?
  rw [nonEmpty_eq_some_iff.2 ⟨hpayment, payment_ne⟩,
    nonEmpty_eq_some_iff.2 ⟨htransaction, transaction_ne⟩]

/-- An authorization that matches a request is missing, unless the latest row of the transaction
tells of it. -/
theorem missing?_of_request (h : item.Authorizes s) {accountId paymentId transactionId : String}
    {request : HostedRequest}
    (hfound : item.find? s = some (.request accountId paymentId transactionId request))
    (account_ne : accountId ≠ "") (payment_ne : paymentId ≠ "")
    (transaction_ne : transactionId ≠ "")
    (unrecorded : ∀ row,
      s.latestOf? transactionId
        (authorizationKind (.request accountId paymentId transactionId request)) = some row →
      item.isRecordedBy row.record = false) :
    ∃ a, s.missing? item = some a ∧ a.accountId = accountId ∧ a.paymentId = paymentId ∧
      a.transactionId = transactionId ∧
      a.kind = authorizationKind (.request accountId paymentId transactionId request) := by
  let found : NotificationMatch := .request accountId paymentId transactionId request
  obtain ⟨amount, hamount, nonnegative⟩ := h.amount
  obtain ⟨currency, hcurrency, letters⟩ := h.currency
  have hkind : kindOfEvent? item.eventCode = some .authorize := by
    rw [h.event]
    rfl
  have htells : (item.attempt .authorize found).kind = authorizationKind found := if_pos h.event
  have nonempty : currency ≠ "" := by
    rintro rfl
    cases letters
  have hcheck : (item.attempt .authorize found).check = .ok () := by
    refine Attempt.check_eq_ok account_ne payment_ne transaction_ne ?_ nonnegative ?_ letters
    · change item.amount.or none = some amount
      rw [hamount, Option.some_or]
    · change (nonEmpty item.currency).or none = some currency
      rw [nonEmpty_eq_some_iff.2 ⟨hcurrency, nonempty⟩, Option.some_or]
  have hattempt : s.attempt? item = some (item.attempt .authorize found) := by
    rw [Store.attempt?_eq hkind hfound, hcheck]
  have hrecorded : ((s.latestOf? transactionId (authorizationKind found)).any fun row =>
      item.isRecordedBy row.record) = false := by
    cases hlatest : s.latestOf? transactionId (authorizationKind found) with
    | none => rfl
    | some row => exact unrecorded row hlatest
  refine ⟨_, ?_, rfl, rfl, rfl, htells⟩
  rw [Store.missing?_of_attempt? hattempt, htells]
  exact if_neg (Bool.eq_false_iff.1 hrecorded)

end NotificationItem

namespace Engine

section Records

variable {c : Collaborators σ} (hc : c.Records)
include hc

/-- What an item brings is recorded and told. -/
theorem ends_recordOnly {item : NotificationItem} {a : Attempt}
    (hproperties : a.properties = item.properties) (w : World σ) :
    ∃ now record info, ResponseRecord.ofResponse a (.notification a.properties) now = .ok record ∧
      Ends (recordOnly c a) w (.ok info) (w.store.addResponse record).2 [] := by
  obtain ⟨now, universal, hclock, hnow⟩ := hc.clock w.outside
  have recognised : ∀ kind, GatewayResponse.notification a.properties ≠ .unrecognised kind := nofun
  obtain ⟨record, made⟩ := ResponseRecord.exists_ofResponse_of_recognised a recognised hnow
  obtain ⟨info, hinfo, -⟩ := NotificationItem.exists_ofRecord_of_made hproperties made
  obtain ⟨w₁, hconsult, idle⟩ := finds_consult hclock
  obtain ⟨w₂, hwrite, becomes⟩ :=
    (ends_addResponse hc made w₁).rephrase (storeFault "add_notification_record")
  refine ⟨now, record, info, made, .of_bind hconsult idle ⟨w₂, ?_, ?_⟩⟩
  · exact (bind_ok _ hwrite).trans (congrArg (·, w₂) hinfo)
  · rw [← idle.store]
    exact becomes

/-- An item that is missing is recorded, if nothing stands in the way. -/
theorem ends_takeItem_of_missing {item : NotificationItem} {a : Attempt} {w : World σ}
    (missing : w.store.missing? item = some a) :
    ∃ now record, ResponseRecord.ofResponse a (.notification a.properties) now = .ok record ∧
      Ends (takeItem c item) w (.ok ()) (w.store.addResponse record).2 [] := by
  have hattempt := Store.attempt?_of_missing? missing
  obtain ⟨kind, found, hkind, hfound, rfl⟩ := Store.exists_of_attempt? hattempt
  have checked : (item.attempt kind found).check = .ok () := by
    rw [Store.attempt?_eq hkind hfound] at hattempt
    split at hattempt
    · assumption
    · cases hattempt
  let a := item.attempt kind found
  have flagged : a.properties.affirms Property.fromHostedPage = true := item.affirms_properties
  obtain ⟨w₁, hfind, idle⟩ := finds_readStore hc item.find? w
  rw [hfound] at hfind
  obtain ⟨w₂, hlatest, idle₂⟩ := finds_readStore hc (·.latestOf? a.transactionId a.kind) w₁
  have hrecorded : isRecorded c item a w₁ = (.ok false, w₂) := by
    refine (bind_ok _ hlatest).trans ?_
    rw [idle.store, Store.unrecorded_of_missing? missing]
    rfl
  obtain ⟨now, record, info, made, w₃, hrecord, becomes⟩ :=
    ends_recordOnly hc (rfl : a.properties = item.properties) w₂
  have hprocess : process c a w₂ = (.ok info, w₃) := by
    unfold process carryOut
    rw [checked, if_pos flagged]
    exact (bind_ok _ (rfl : ofOutcome (.ok ()) w₂ = (.ok (), w₂))).trans hrecord
  have hstore : w₂.store = w.store := (idle.trans idle₂).store
  rw [hstore] at becomes
  refine ⟨now, record, made, w₃, ?_, (idle.trans idle₂).trans_becomes becomes⟩
  unfold takeItem
  rw [hkind]
  refine (bind_ok _ hfind).trans ?_
  dsimp only
  rw [checked]
  exact (bind_ok _ hrecorded).trans (bind_ok _ hprocess)

end Records

/-- Unless a newer request has taken its key, the request that was filed last is found under the key
after every history. -/
theorem latestRequest?_history {s : Store} {request : HostedRequest} {w : World σ}
    (filed : w.store = (s.addRequest request).2) (c : Collaborators σ) (entries : List Entry)
    (latest : ∀ row ∈ (history c w entries).store.requests.drop w.store.requests.length,
      row.request.externalKey ≠ request.externalKey) :
    (history c w entries).store.latestRequest? request.externalKey =
      some (s.addRequest request).1 := by
  obtain ⟨later, hlater⟩ := requests_history c w entries
  have hrequests : (history c w entries).store.requests =
      s.requests ++ (s.addRequest request).1 :: later := by
    rw [← hlater, filed, Store.addRequest, List.append_assoc]
    rfl
  refine Store.latestRequest?_of_requests hrequests fun row hrow => ?_
  apply latest row
  rw [← hlater, List.drop_left]
  exact hrow

/-- Whether an item comes back to a form: it tells of an authorization under the reference of the
form, and no newer request has taken the key since the store was as the form left it. -/
structure ComesBack (item : NotificationItem) (fields : FormFields) (left now : Store) : Prop where
  /-- It tells of an authorization. -/
  authorizes : item.Authorizes now
  /-- Under the reference of the form. -/
  reference : item.merchantReference = fields.lookup "merchantReference"
  /-- No newer request has the key. -/
  latest : ∀ row ∈ now.requests.drop left.requests.length,
    some row.request.externalKey ≠ item.merchantReference

/-- A form for which a pending payment was asked and the notification that comes back to it agree:
the billing platform has opened a pending payment, and whatever has happened to the store meanwhile,
the item is recorded in one row, for the account of the form and under the identifiers of the
pending payment, as an authorization if the billing platform was asked for one and as a purchase
otherwise. -/
theorem notification_agrees_with_form (c : Collaborators σ)
    (tells : ∀ page, c.page = some page → page.TellsKey) (fresh : ∀ s, (c.freshKey s).1 ≠ "")
    (accountId : String) (custom properties : Bag) (w w₁ : World σ) (descriptor : FormDescriptor)
    (built : form c accountId custom properties w = (.ok descriptor, w₁))
    (asked : (Bag.merge [custom, properties]).affirms Property.createPendingPayment = true) :
    ∃ pending opened, w₁.openings = w.openings ++ [⟨pending, .ok opened⟩] ∧
      (c.openPending pending (c.keyed accountId (Bag.merge [custom, properties]) w.outside)).1 =
        .ok opened ∧
      (accountId ≠ "" → opened.paymentId ≠ "" → opened.transactionId ≠ "" →
        ∀ (c₁ c₂ : Collaborators σ) (entries : List Entry) (item : NotificationItem),
          let w₂ := history c₁ w₁ entries
          let kind : TransactionType := if pending.authorizeOnly then .authorize else .purchase
          c₂.Records → ComesBack item descriptor.fields w₁.store w₂.store →
          (∀ row, w₂.store.latestOf? opened.transactionId kind = some row →
            item.isRecordedBy row.record = false) →
          ∃ row w₃, takeItem c₂ item w₂ = (.ok (), w₃) ∧
            w₃.store = { w₂.store with rows := w₂.store.rows ++ [row] } ∧
            row.record.accountId = accountId ∧ row.record.paymentId = opened.paymentId ∧
            row.record.transactionId = opened.transactionId ∧ row.record.kind = kind) := by
  obtain ⟨page, hosted, wp, hpage, prepared, hfields, hstore, hopenings⟩ := form_ok built
  obtain ⟨pending, opened, hnoted, openedAs, hpayment, htransaction⟩ := prepared.asked asked
  refine ⟨pending, opened, hopenings.trans hnoted, openedAs.answer, ?_⟩
  intro account_ne payment_ne transaction_ne c₁ c₂ entries item w₂ kind records comesBack unrecorded
  have key_ne : hosted.request.externalKey ≠ "" := by
    rcases prepared.key with given | ⟨-, hfresh⟩
    · exact (nonEmpty_eq_some_iff.1 given).2
    · rw [← hfresh]
      exact fresh _
  have hkey : item.merchantReference = some hosted.request.externalKey := by
    rw [comesBack.reference, tells page hpage _ _ _ _ _ hfields, prepared.told]
  let filed : RequestRow := (w.store.addRequest hosted.request).1
  have hlatest : w₂.store.latestRequest? hosted.request.externalKey = some filed := by
    refine latestRequest?_history hstore c₁ entries fun row hrow heq => ?_
    apply comesBack.latest row hrow
    rw [hkey, heq]
  have hfound := NotificationItem.find?_of_latestRequest? comesBack.authorizes hkey key_ne hlatest
    hpayment payment_ne htransaction transaction_ne
  -- The request bears the properties as they are kept, by which the type is decided once more.
  have hkind : NotificationItem.authorizationKind
      (.request filed.request.accountId opened.paymentId opened.transactionId filed.request) =
      kind := by
    have hmode : filed.request.additionalData.affirms Property.authMode =
        pending.authorizeOnly := by
      rw [openedAs.authorizeOnly, ← prepared.data]
      exact Bag.affirms_storable _ _
    simp only [NotificationItem.authorizationKind, hmode, kind]
  have haccount : filed.request.accountId = accountId := prepared.account
  rw [← hkind] at unrecorded
  obtain ⟨a, missing, ha⟩ := NotificationItem.missing?_of_request comesBack.authorizes hfound
    (haccount ▸ account_ne) payment_ne transaction_ne unrecorded
  obtain ⟨now, record, made, w₃, htake, becomes⟩ := ends_takeItem_of_missing records missing
  have hfor := ResponseRecord.for_of_ofResponse made
  exact ⟨(w₂.store.addResponse record).1, w₃, htake, becomes.store,
    hfor.account.trans (ha.1.trans haccount), hfor.payment.trans ha.2.1,
    hfor.transaction.trans ha.2.2.1, hfor.kind.trans (ha.2.2.2.trans hkind)⟩

/-- A form asks for an authorization, another form is built under another key, and the notification
that comes back to the first one is recorded as an authorization of its pending payment. -/
theorem notification_agrees_with_form_before_another :
    let c : Collaborators Unit :=
      { Collaborators.steady ⟨63850161600000000, some 0⟩ (.error .amountRequired) with
        page := some ⟨"https://hpp.example.com/pay", HostedPage.unsignedFields⟩ }
    let asking : Bag := [(Property.amount, .text "10.00"), (Property.currency, .text "EUR"),
      (Property.createPendingPayment, .bool true), (Property.authMode, .text " True "),
      (Property.paymentExternalKey, .text "order-7")]
    let other : Bag := [(Property.amount, .text "5.00"), (Property.currency, .text "EUR"),
      (Property.paymentExternalKey, .text "order-8")]
    let item : NotificationItem :=
      { eventCode := "AUTHORISATION", success := true, pspReference := some "A"
        merchantReference := some "order-7", amount := some (.finite false 1000 (-2))
        currency := some "EUR" }
    let w : World Unit := { store := {}, outside := () }
    let w₁ := (form c "acc-1" [] asking w).2
    let w₂ := history c w₁ [.request (.form "acc-2" [] other)]
    ∃ row w₃, takeItem c item w₂ = (.ok (), w₃) ∧
      w₃.store = { w₂.store with rows := w₂.store.rows ++ [row] } ∧
      row.record.accountId = "acc-1" ∧ row.record.paymentId = "payment" ∧
      row.record.transactionId = "transaction" ∧ row.record.kind = .authorize := by
  intro c asking other item w w₁ w₂
  have steady := Collaborators.records_steady
    (rfl : Moment.toUniversal ⟨63850161600000000, some 0⟩ = _) (.error .amountRequired)
  have records : c.Records := ⟨steady.clock, steady.opening, steady.committing⟩
  have tells : ∀ page, c.page = some page → page.TellsKey := by
    rintro page ⟨⟩
    exact HostedPage.tellsKey_unsigned _
  obtain ⟨descriptor, built, hreference⟩ : ∃ descriptor,
      form c "acc-1" [] asking w = (.ok descriptor, w₁) ∧
        item.merchantReference = descriptor.fields.lookup "merchantReference" := ⟨_, rfl, rfl⟩
  obtain ⟨pending, opened, hopenings, hopened, hagree⟩ := notification_agrees_with_form c tells
    (fun _ => (by decide : "key" ≠ "")) "acc-1" [] asking w w₁ descriptor built (by decide +kernel)
  obtain rfl := Except.ok.inj hopened
  have hmode : w₁.pending.map PendingRequest.authorizeOnly = [true] := by decide +kernel
  have hauthorize : pending.authorizeOnly = true := by
    rw [World.pending, hopenings] at hmode
    exact (List.cons.inj hmode).1
  have hrows : w₂.store.rows = [] := rfl
  have hkeys : (w₂.store.requests.drop w₁.store.requests.length).map
      (fun row => row.request.externalKey) = ["order-8"] := by decide +kernel
  have comesBack : ComesBack item descriptor.fields w₁.store w₂.store := by
    refine ⟨⟨rfl, fun _ _ _ row hrow => ?_, ⟨_, rfl, rfl⟩, ⟨_, rfl, by decide +kernel⟩⟩,
      hreference, fun row hrow => ?_⟩
    · rw [hrows] at hrow
      cases hrow
    · have hkey := List.mem_map_of_mem (f := fun row => row.request.externalKey) hrow
      rw [hkeys, List.mem_singleton] at hkey
      rw [hkey]
      decide
  have hagreed := hagree (by decide) (by decide) (by decide) c c
    [.request (.form "acc-2" [] other)] item records comesBack fun row hrow => by cases hrow
  rw [hauthorize] at hagreed
  exact hagreed

end Engine

end CardPayments
