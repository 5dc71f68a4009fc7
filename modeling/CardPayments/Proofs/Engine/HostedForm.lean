import CardPayments.Proofs.Acceptance
import CardPayments.Proofs.Engine.Growth

/-!
# What a form leaves behind

A form is first prepared: amount, account, currency, key and payment data are settled and a pending
payment is opened, all of which leaves the store alone. Then the request is stored, and only after
that the page builds its fields. So a form that cannot be prepared leaves the store as it was, and
one whose fields cannot be built leaves its request and nothing else.
-/

namespace CardPayments

/-- What has been prepared for a form. -/
structure HostedPayment where
  /-- What the page is told about the payment. -/
  payment : PaymentData
  /-- What the page is told about the shopper. -/
  user : UserData
  /-- The request that is stored. -/
  request : HostedRequest

/-- What the page makes of a payment. -/
def HostedPage.fieldsFor (page : HostedPage) (settings : GatewaySettings) (properties : Bag)
    (hosted : HostedPayment) : Outcome FormFields :=
  page.fields (some (settings.merchantAccountFor hosted.payment.info.country properties))
    hosted.payment hosted.user (SplitSettlement.ofProperties properties)

namespace Engine

variable {σ : Type}

/-- The key of a hosted payment: the one that the properties give, or else a fresh one. -/
def keyFor (c : Collaborators σ) (properties : Bag) : Engine σ String :=
  match hostedKey? properties with
  | some key => pure key
  | none => ask c.freshKey

/-- Prepares a form. -/
def prepareForm (c : Collaborators σ) (accountId : String) (properties : Bag) :
    Engine σ HostedPayment := do
  let amount ← ofOutcome (readAmount (properties.text? Property.amount))
  let account ← consult (c.account accountId)
  let some currency := nonEmpty (properties.textOr Property.currency account.currency)
    | throw (Fault.invalid "currency must be specified" Property.currency)
  let now ← consult c.clock
  let externalKey ← keyFor c properties
  let info ← ofOutcome (hostedInfo c.settings account properties now)
  let payment ← ofOutcome (PaymentData.make (some amount) (some currency) externalKey info)
  let opened ← openPending c account amount payment properties
  let createdAt ← ofOutcome (recordedMoment now)
  pure {
    payment
    user := UserData.ofProperties (some account) properties
    request := {
      accountId
      paymentId := opened.map PendingPayment.paymentId
      transactionId := opened.map PendingPayment.transactionId
      externalKey
      additionalData := properties
      createdAt := some createdAt } }

/-- Stores the request of a form that has been prepared, and builds it. -/
def finishForm (c : Collaborators σ) (page : HostedPage) (properties : Bag)
    (hosted : HostedPayment) : Engine σ FormDescriptor := do
  let _ ← fileRequest c hosted.request
  let fields ← ofOutcome <|
    match page.fieldsFor c.settings properties hosted with
    | .ok fields => .ok fields
    | .error e => .error (formFault hosted.request.externalKey e)
  pure {
    accountId := hosted.request.accountId
    url := (nonEmpty (properties.text? Property.pageTarget)).getD page.target
    fields }

/-- A form is prepared and then finished. -/
theorem buildForm_eq (c : Collaborators σ) (page : HostedPage) (accountId : String)
    (properties : Bag) :
    buildForm c page accountId properties =
      prepareForm c accountId properties >>= finishForm c page properties := by
  unfold buildForm prepareForm
  rw [bind_assoc]
  refine bind_congr fun amount => ?_
  rw [bind_assoc]
  refine bind_congr fun account => ?_
  cases nonEmpty (properties.textOr Property.currency account.currency) with
  | none => rfl
  | some currency =>
    dsimp only
    rw [bind_assoc]
    refine bind_congr fun now => ?_
    unfold keyFor
    cases hostedKey? properties <;> simp only [bind_assoc, pure_bind] <;> rfl

/-- Choosing a key leaves everything but the collaborators alone. -/
theorem quiet_keyFor (c : Collaborators σ) (properties : Bag) : Quiet (keyFor c properties) := by
  unfold keyFor
  split
  · exact quiet_pure _
  · exact quiet_ask _

/-- The key is given or fresh, and only a fresh one has been asked for. -/
theorem keyFor_ok {c : Collaborators σ} {properties : Bag} {key : String} {w w' : World σ}
    (h : keyFor c properties w = (.ok key, w')) :
    (hostedKey? properties = some key ∨
      hostedKey? properties = none ∧ (c.freshKey w.outside).1 = key) ∧
    w'.outside = match hostedKey? properties with
      | some _ => w.outside
      | none => (c.freshKey w.outside).2 := by
  unfold keyFor at h
  cases hkey : hostedKey? properties with
  | some given =>
    rw [hkey] at h
    obtain ⟨hgiven, rfl⟩ := Prod.mk.inj h
    exact ⟨Or.inl (congrArg some (Except.ok.inj hgiven)), rfl⟩
  | none =>
    rw [hkey] at h
    obtain ⟨hfresh, rfl⟩ := Prod.mk.inj h
    exact ⟨Or.inr ⟨rfl, Except.ok.inj hfresh⟩, rfl⟩

/-- Preparing a form leaves the store alone. -/
theorem still_prepareForm (c : Collaborators σ) (accountId : String) (properties : Bag) :
    Keeps World.Still (prepareForm c accountId properties) := by
  unfold prepareForm
  refine still_bind (quiet_ofOutcome _).still fun amount => ?_
  refine still_bind (quiet_consult _).still fun account => ?_
  split
  · refine still_bind (quiet_consult _).still fun now => ?_
    refine still_bind (quiet_keyFor c properties).still fun externalKey => ?_
    refine still_bind (quiet_ofOutcome _).still fun info => ?_
    refine still_bind (quiet_ofOutcome _).still fun payment => ?_
    refine still_bind (still_openPending c _ _ _ _) fun opened => ?_
    exact still_bind (quiet_ofOutcome _).still fun createdAt => (quiet_pure _).still
  · exact (quiet_throw _).still

/-- A request that cannot be stored leaves everything but the collaborators alone. -/
theorem fileRequest_error {c : Collaborators σ} {request : HostedRequest} {w w' : World σ}
    {e : Fault} (h : fileRequest c request w = (.error e, w')) : w.Idle w' := by
  rcases rephrase_writeStore_cases h with ⟨_, _, idle⟩ | ⟨_, _, hok, _⟩
  · exact idle
  · cases hok

/-- A request that can be stored is added to the store. -/
theorem fileRequest_ok {c : Collaborators σ} {request : HostedRequest} {w w' : World σ}
    {row : RequestRow} (h : fileRequest c request w = (.ok row, w')) :
    w.Becomes (w.store.addRequest request).2 [] w' := by
  rcases rephrase_writeStore_cases h with ⟨_, herror, _⟩ | ⟨_, store, _, hadded, becomes⟩
  · cases herror
  · obtain rfl := congrArg Prod.snd (Except.ok.inj hadded)
    exact becomes

/-- A form ends in the fault with which its request could not be stored; once it has been stored, it
ends as its page ends. -/
theorem finishForm_cases {c : Collaborators σ} {page : HostedPage} {properties : Bag}
    {hosted : HostedPayment} {w w' : World σ} {r : Outcome FormDescriptor}
    (h : finishForm c page properties hosted w = (r, w')) :
    (∃ e, fileRequest c hosted.request w = (.error e, w') ∧ r = .error e) ∨
      ∃ row, fileRequest c hosted.request w = (.ok row, w') ∧
        ((∃ cause, page.fieldsFor c.settings properties hosted = .error cause ∧
            r = .error (formFault hosted.request.externalKey cause)) ∨
          ∃ descriptor, page.fieldsFor c.settings properties hosted = .ok descriptor.fields ∧
            r = .ok descriptor) := by
  rcases bind_cases h with ⟨e, hfile, hr⟩ | ⟨row, w₁, hfile, h⟩
  · exact Or.inl ⟨e, hfile, hr⟩
  cases hpage : page.fieldsFor c.settings properties hosted with
  | error cause =>
    rw [hpage] at h
    obtain ⟨rfl, rfl⟩ := Prod.mk.inj h
    exact Or.inr ⟨row, hfile, Or.inl ⟨cause, rfl, rfl⟩⟩
  | ok fields =>
    rw [hpage] at h
    obtain ⟨rfl, rfl⟩ := Prod.mk.inj h
    exact Or.inr ⟨row, hfile, Or.inr ⟨_, rfl, rfl⟩⟩

/-- Building a form makes no call, and files a request at most. -/
theorem files_form (c : Collaborators σ) (accountId : String) (custom properties : Bag) :
    Keeps World.Files (form c accountId custom properties) := by
  unfold form
  split
  · exact (quiet_throw _).files
  · rw [buildForm_eq]
    refine files_bind (still_prepareForm c accountId _) fun hosted w => ?_
    rcases finishForm_cases (rfl : finishForm c _ _ hosted w = (_, _)) with
      ⟨_, hfile, -⟩ | ⟨_, hfile, -⟩
    · exact (fileRequest_error hfile).still.files
    · have becomes := fileRequest_ok hfile
      exact ⟨becomes.calls_eq, Or.inr ⟨hosted.request, becomes.store⟩⟩

/-- It adds no response. -/
theorem grows_form (c : Collaborators σ) (accountId : String) (custom properties : Bag) :
    Keeps World.Grows (form c accountId custom properties) :=
  fun w => (files_form c accountId custom properties w).grows

/-- Whether the billing platform, asked in the state `s`, has opened a pending payment under a key,
as the properties ask for it: it is only authorized if they say so. -/
structure OpenedAs (c : Collaborators σ) (s : σ) (properties : Bag) (externalKey : String)
    (request : PendingRequest) (opened : PendingPayment) : Prop where
  /-- The billing platform has opened it. -/
  answer : (c.openPending request s).1 = .ok opened
  /-- It is only authorized, or taken as well. -/
  authorizeOnly : request.authorizeOnly = properties.affirms Property.authMode
  /-- It is known under the key. -/
  externalKey : request.externalKey = externalKey

/-- A pending payment is opened if the properties ask for one, and only then. -/
theorem openPending_ok {c : Collaborators σ} {account : Account} {amount : Decimal}
    {payment : PaymentData} {properties : Bag} {opened : Option PendingPayment} {w w' : World σ}
    (h : openPending c account amount payment properties w = (.ok opened, w')) :
    (properties.affirms Property.createPendingPayment = false ∧ opened = none ∧
      w'.openings = w.openings) ∨
    ∃ request found, properties.affirms Property.createPendingPayment = true ∧
      opened = some found ∧ w'.openings = w.openings ++ [⟨request, .ok found⟩] ∧
      OpenedAs c w.outside properties payment.externalKey request found := by
  unfold openPending at h
  split at h
  · rename_i asked
    obtain ⟨answer, w₁, hask, h⟩ := exists_of_bind_ok h
    obtain ⟨hanswer, idle⟩ := ask_eq hask
    obtain ⟨_, w₂, hnote, h⟩ := exists_of_bind_ok h
    obtain ⟨-, rfl⟩ := Prod.mk.inj hnote
    obtain ⟨found, w₃, hfound, h⟩ := exists_of_bind_ok h
    obtain ⟨rfl, rfl⟩ := ofOutcome_eq hfound
    obtain ⟨hopened, rfl⟩ := Prod.mk.inj h
    obtain rfl := Except.ok.inj hopened
    exact Or.inr ⟨_, found, asked, rfl, congrArg (· ++ _) idle.openings,
      (Except.ok.inj hanswer).symm, rfl, rfl⟩
  · rename_i unasked
    obtain ⟨hopened, rfl⟩ := Prod.mk.inj h
    exact Or.inl ⟨Bool.eq_false_iff.2 unasked, (Except.ok.inj hopened).symm, rfl⟩

end Engine

namespace Collaborators

/-- The state in which the account and the time of a form leave the collaborators. -/
def timed (c : Collaborators σ) (accountId : String) (s : σ) : σ :=
  (c.clock (c.account accountId s).2).2

/-- The state in which the key of a form leaves them. -/
def keyed (c : Collaborators σ) (accountId : String) (properties : Bag) (s : σ) : σ :=
  match hostedKey? properties with
  | some _ => c.timed accountId s
  | none => (c.freshKey (c.timed accountId s)).2

end Collaborators

/-- Where what a form is told about the payment and the shopper comes from: the account, the time
and the properties. The collaborators are asked in this order, beginning in the state `s`. -/
structure HostedPayment.Sources (c : Collaborators σ) (s : σ) (accountId : String)
    (properties : Bag) (account : Account) (payment : PaymentData) (user : UserData) : Prop where
  /-- The account is the one that the billing platform knows. -/
  known : (c.account accountId s).1 = .ok account
  /-- The amount is that of the properties. -/
  amount : ∃ amount, readAmount (properties.text? Property.amount) = .ok amount ∧
    payment.amount = some amount
  /-- The currency is that of the properties or of the account, in upper case. -/
  currency : ∃ currency,
    nonEmpty (properties.textOr Property.currency account.currency) = some currency ∧
      payment.currency = some (Text.toUpper currency)
  /-- The key is given or fresh. -/
  key : hostedKey? properties = some payment.externalKey ∨
    hostedKey? properties = none ∧ (c.freshKey (c.timed accountId s)).1 = payment.externalKey
  /-- The circumstances are those of the account, the properties and the time. -/
  info : ∃ now, (c.clock (c.account accountId s).2).1 = .ok now ∧
    Engine.hostedInfo c.settings account properties now = .ok payment.info
  /-- The shopper is that of the account and the properties. -/
  shopper : user = UserData.ofProperties (some account) properties

/-- How a form has been prepared: its request has the account, all the properties, and the key that
the page is told, which is the one they give or else a fresh one. A pending payment has been opened
for it if they ask for one. -/
structure HostedPayment.Prepared {σ : Type} (c : Collaborators σ) (accountId : String)
    (properties : Bag) (w : World σ) (hosted : HostedPayment) (w' : World σ) : Prop where
  /-- The store has been left alone. -/
  still : w.Still w'
  /-- The request is for the account. -/
  account : hosted.request.accountId = accountId
  /-- It has the properties. -/
  data : hosted.request.additionalData = properties
  /-- The page is told its key. -/
  told : hosted.payment.externalKey = hosted.request.externalKey
  /-- The key is given or fresh. -/
  key : hostedKey? properties = some hosted.request.externalKey ∨
    hostedKey? properties = none ∧
      (c.freshKey (c.timed accountId w.outside)).1 = hosted.request.externalKey
  /-- Unasked, no pending payment is opened. -/
  unasked : properties.affirms Property.createPendingPayment = false →
    hosted.request.paymentId = none ∧ hosted.request.transactionId = none ∧
      w'.openings = w.openings
  /-- Asked, one is opened, and the request is tied to it. -/
  asked : properties.affirms Property.createPendingPayment = true → ∃ request opened,
    w'.openings = w.openings ++ [⟨request, .ok opened⟩] ∧
      Engine.OpenedAs c (c.keyed accountId properties w.outside) properties
        hosted.request.externalKey request opened ∧
      hosted.request.paymentId = some opened.paymentId ∧
      hosted.request.transactionId = some opened.transactionId

namespace Engine

/-- A form is prepared from its sources. Then a pending payment may be opened, and the request is
made of what has become of it. -/
theorem prepareForm_ok {c : Collaborators σ} {accountId : String} {properties : Bag}
    {hosted : HostedPayment} {w w' : World σ}
    (h : prepareForm c accountId properties w = (.ok hosted, w')) :
    ∃ account amount opened createdAt w₁,
      HostedPayment.Sources c w.outside accountId properties account hosted.payment
        hosted.user ∧
      w.Idle w₁ ∧ w₁.outside = c.keyed accountId properties w.outside ∧
      openPending c account amount hosted.payment properties w₁ = (.ok opened, w') ∧
      hosted.request = {
        accountId
        paymentId := opened.map PendingPayment.paymentId
        transactionId := opened.map PendingPayment.transactionId
        externalKey := hosted.payment.externalKey
        additionalData := properties
        createdAt := some createdAt } := by
  unfold prepareForm at h
  obtain ⟨amount, w₁, hamount, h⟩ := exists_of_bind_ok h
  obtain ⟨account, w₂, haccount, h⟩ := exists_of_bind_ok h
  rcases hcurrency : nonEmpty (properties.textOr Property.currency account.currency) with
    _ | currency
  · rw [hcurrency] at h
    cases h
  rw [hcurrency] at h
  obtain ⟨now, w₃, hnow, h⟩ := exists_of_bind_ok h
  obtain ⟨key, w₄, hkey, h⟩ := exists_of_bind_ok h
  obtain ⟨info, w₅, hinfo, h⟩ := exists_of_bind_ok h
  obtain ⟨payment, w₆, hpayment, h⟩ := exists_of_bind_ok h
  obtain ⟨opened, w₇, hopened, h⟩ := exists_of_bind_ok h
  obtain ⟨createdAt, w₈, hcreated, h⟩ := exists_of_bind_ok h
  obtain ⟨hhosted, rfl⟩ := Prod.mk.inj h
  obtain rfl := Except.ok.inj hhosted
  obtain ⟨read, rfl⟩ := ofOutcome_eq hamount
  obtain ⟨gathered, rfl⟩ := ofOutcome_eq hinfo
  obtain ⟨made, rfl⟩ := ofOutcome_eq hpayment
  obtain ⟨-, rfl⟩ := ofOutcome_eq hcreated
  obtain ⟨-, -, rfl⟩ := PaymentData.make_eq_ok_iff.1 made
  have quiet := quiet_keyFor c properties w₃
  rw [hkey] at quiet
  have idle := (consult_eq haccount).2.trans ((consult_eq hnow).2.trans quiet)
  obtain ⟨known, rfl⟩ := Prod.mk.inj haccount
  obtain ⟨ticked, rfl⟩ := Prod.mk.inj hnow
  obtain ⟨hgiven, houtside⟩ := keyFor_ok hkey
  refine ⟨account, amount, opened, createdAt, w₄, ?_, idle, houtside, hopened, rfl⟩
  exact ⟨known, ⟨amount, read, rfl⟩, ⟨currency, hcurrency, rfl⟩, hgiven, ⟨now, ticked, gathered⟩,
    rfl⟩

/-- A form that is prepared is prepared as it should be. -/
theorem prepared_of_prepareForm {c : Collaborators σ} {accountId : String} {properties : Bag}
    {hosted : HostedPayment} {w w' : World σ}
    (h : prepareForm c accountId properties w = (.ok hosted, w')) :
    hosted.Prepared c accountId properties w w' := by
  have still : w.Still w' := by
    have hstill := still_prepareForm c accountId properties w
    rw [h] at hstill
    exact hstill
  obtain ⟨account, amount, pending, createdAt, w₁, sources, idle, houtside, hpending, hrequest⟩ :=
    prepareForm_ok h
  obtain ⟨payment, user, request⟩ := hosted
  dsimp only at hrequest
  subst hrequest
  refine ⟨still, rfl, rfl, rfl, sources.key, fun unasked => ?_, fun asked => ?_⟩
  · rcases openPending_ok hpending with ⟨-, rfl, same⟩ | ⟨_, _, asked, _⟩
    · exact ⟨rfl, rfl, same.trans idle.openings⟩
    · rw [unasked] at asked
      cases asked
  · rcases openPending_ok hpending with ⟨unasked, _⟩ | ⟨request, found, -, rfl, hnoted, opened⟩
    · rw [unasked] at asked
      cases asked
    · rw [idle.openings] at hnoted
      rw [houtside] at opened
      exact ⟨request, found, hnoted, opened, rfl, rfl⟩

/-- A form that is built has been prepared, has the fields that its page makes, and leaves its
request in the store. -/
theorem form_ok {c : Collaborators σ} {accountId : String} {custom properties : Bag}
    {w w' : World σ} {descriptor : FormDescriptor}
    (h : form c accountId custom properties w = (.ok descriptor, w')) :
    ∃ page hosted w₁, c.page = some page ∧
      hosted.Prepared c accountId (Bag.merge [custom, properties]) w w₁ ∧
      page.fieldsFor c.settings (Bag.merge [custom, properties]) hosted = .ok descriptor.fields ∧
      w'.store = (w.store.addRequest hosted.request).2 ∧ w'.openings = w₁.openings := by
  unfold form at h
  cases hpage : c.page with
  | none =>
    rw [hpage] at h
    cases h
  | some page =>
    rw [hpage] at h
    dsimp only at h
    rw [buildForm_eq] at h
    obtain ⟨hosted, w₁, hprepare, hfinish⟩ := exists_of_bind_ok h
    have prepared := prepared_of_prepareForm hprepare
    rcases finishForm_cases hfinish with
      ⟨_, -, herror⟩ | ⟨row, hfile, ⟨_, -, herror⟩ | ⟨_, hfields, hr⟩⟩
    · cases herror
    · cases herror
    · obtain rfl := Except.ok.inj hr
      have becomes := fileRequest_ok hfile
      rw [prepared.still.store] at becomes
      exact ⟨page, hosted, w₁, rfl, prepared, hfields, becomes.store, becomes.openings⟩

/-- Whether it comes to asking the page for the fields of a form: one is configured, the form can be
prepared, and then its request can be stored. -/
structure PageAsked (c : Collaborators σ) (accountId : String) (properties : Bag) (w : World σ)
    (page : HostedPage) (hosted : HostedPayment) : Prop where
  /-- The page is the one that is configured. -/
  configured : c.page = some page
  /-- The form is prepared, and its request is stored. -/
  filed : ∃ w₁ row w₂, prepareForm c accountId properties w = (.ok hosted, w₁) ∧
    fileRequest c hosted.request w₁ = (.ok row, w₂)

/-- A form that fails before its page is asked for the fields leaves the store as it was. One whose
page is asked fails because the page cannot build them: then the request of this form has been
stored, and nothing else. -/
theorem failed_form_leaves_store (c : Collaborators σ) (accountId : String)
    (custom properties : Bag) (w w' : World σ) (e : Fault)
    (failed : form c accountId custom properties w = (.error e, w')) :
    (w'.store = w.store ∧ ∀ page hosted,
      ¬ PageAsked c accountId (Bag.merge [custom, properties]) w page hosted) ∨
    ∃ page hosted w₁ cause,
      PageAsked c accountId (Bag.merge [custom, properties]) w page hosted ∧
      hosted.Prepared c accountId (Bag.merge [custom, properties]) w w₁ ∧
      page.fieldsFor c.settings (Bag.merge [custom, properties]) hosted = .error cause ∧
      e = formFault hosted.request.externalKey cause ∧
      w'.store = (w.store.addRequest hosted.request).2 ∧ w'.openings = w₁.openings := by
  unfold form at failed
  cases hpage : c.page with
  | none =>
    rw [hpage] at failed
    obtain ⟨-, rfl⟩ := Prod.mk.inj failed
    refine Or.inl ⟨rfl, fun page hosted asked => ?_⟩
    rw [asked.configured] at hpage
    cases hpage
  | some page =>
    rw [hpage] at failed
    dsimp only at failed
    rw [buildForm_eq] at failed
    rcases bind_cases failed with ⟨_, hprepare, -⟩ | ⟨hosted, w₁, hprepare, hfinish⟩
    · have still := still_prepareForm c accountId (Bag.merge [custom, properties]) w
      rw [hprepare] at still
      refine Or.inl ⟨still.store, fun page' hosted asked => ?_⟩
      obtain ⟨w₁, row, w₂, hprepared, -⟩ := asked.filed
      rw [hprepare] at hprepared
      cases hprepared
    have prepared := prepared_of_prepareForm hprepare
    rcases finishForm_cases hfinish with
      ⟨_, hfile, -⟩ | ⟨row, hfile, ⟨cause, hcause, hr⟩ | ⟨_, _, hr⟩⟩
    · refine Or.inl ⟨(fileRequest_error hfile).store.trans prepared.still.store, ?_⟩
      rintro page' hosted' ⟨-, w₂, row, w₃, hprepared, hfiled⟩
      rw [hprepare] at hprepared
      obtain ⟨hhosted, rfl⟩ := Prod.mk.inj hprepared
      obtain rfl := Except.ok.inj hhosted
      rw [hfile] at hfiled
      cases hfiled
    · have becomes := fileRequest_ok hfile
      rw [prepared.still.store] at becomes
      exact Or.inr ⟨page, hosted, w₁, cause, ⟨hpage, w₁, row, w', hprepare, hfile⟩, prepared,
        hcause, Except.error.inj hr, becomes.store, becomes.openings⟩
    · cases hr

/-- A form without an amount fails and leaves the store as it was; a form with an amount that its
page cannot tell in minor units fails and leaves its request. -/
theorem failed_form_leaves_store_or_request :
    let c : Collaborators Unit :=
      { Collaborators.steady ⟨63850161600000000, some 0⟩ (.error .amountRequired) with
        page := some ⟨"https://hpp.example.com/pay", HostedPage.unsignedFields⟩ }
    let w : World Unit := { store := {}, outside := () }
    let order : Bag :=
      [(Property.currency, .text "EUR"), (Property.paymentExternalKey, .text "order-7")]
    (∃ w', form c "acc-1" [] order w =
        (.error (Fault.invalid "amount must be specified" Property.amount), w') ∧
      w'.store = w.store) ∧
    ∃ w' request, form c "acc-1" [(Property.amount, .text "1E+30")] order w =
        (.error (formFault "order-7" (.arithmetic .invalidOperation)), w') ∧
      w'.store = (w.store.addRequest request).2 ∧ request.accountId = "acc-1" ∧
      request.externalKey = "order-7" ∧
      request.additionalData = (Property.amount, .text "1E+30") :: order ∧
      request.paymentId = none := by
  intro c w order
  constructor
  · have failed : form c "acc-1" [] order w =
        (.error (Fault.invalid "amount must be specified" Property.amount), w) := rfl
    refine ⟨w, failed, ?_⟩
    rcases failed_form_leaves_store c "acc-1" [] order w w _ failed with
      ⟨same, -⟩ | ⟨_, _, _, _, ⟨-, _, _, _, hprepare, -⟩, -⟩
    · exact same
    · cases hprepare
  · obtain ⟨w', failed⟩ : ∃ w', form c "acc-1" [(Property.amount, .text "1E+30")] order w =
        (.error (formFault "order-7" (.arithmetic .invalidOperation)), w') := ⟨_, rfl⟩
    rcases failed_form_leaves_store c "acc-1" _ order w w' _ failed with
      ⟨-, unasked⟩ | ⟨page, hosted, w₁, cause, -, prepared, -, -, stored, -⟩
    · exact absurd ⟨rfl, _, _, _, rfl, rfl⟩ (unasked _ _)
    · obtain ⟨hpayment, -⟩ := prepared.unasked (by decide +kernel)
      have hkey : some hosted.request.externalKey = some "order-7" := by
        obtain given | ⟨absent, -⟩ := prepared.key
        · rw [← given]
          rfl
        · cases absent
      exact ⟨w', hosted.request, failed, stored, prepared.account, Option.some.inj hkey,
        prepared.data.trans rfl, hpayment⟩

/-- A page that cannot tell the amount in minor units leaves the request in the store. -/
theorem failing_page_leaves_request :
    let c : Collaborators Unit :=
      { Collaborators.steady ⟨63850161600000000, some 0⟩ (.error .amountRequired) with
        page := some ⟨"https://hpp.example.com/pay", HostedPage.unsignedFields⟩ }
    let w : World Unit := { store := {}, outside := () }
    let attempted := form c "acc-1" [(Property.amount, .text "1E+30")]
      [(Property.currency, .text "EUR"), (Property.paymentExternalKey, .text "order-7")] w
    attempted.1 = .error (formFault "order-7" (.arithmetic .invalidOperation)) ∧
      attempted.2.store ≠ w.store := by
  intro c w attempted
  have stored : attempted.2.store.requests.length = 1 := rfl
  refine ⟨rfl, fun same => ?_⟩
  rw [same] at stored
  cases stored

end Engine

end CardPayments
