import CardPayments.Engine.World
import CardPayments.Status

/-!
# Forms for the hosted page

A form is made from properties. Before the shopper leaves, a pending payment can be opened, and the
request is stored under a key by which a later notification finds it.
-/

namespace CardPayments

/-- A form that takes the shopper to the hosted page. -/
structure FormDescriptor where
  /-- The account. -/
  accountId : String
  /-- Where the form is sent. -/
  url : String
  /-- The fields of the form. -/
  fields : FormFields
  deriving DecidableEq, Repr

/-- The fault of an amount that cannot be used. -/
def invalidAmount (s : String) : Fault :=
  Fault.invalid ("Invalid amount: " ++ Text.quoted s) Property.amount

/-- Reads the amount of a hosted payment, which may not be negative. A NaN cannot be compared. -/
def readAmount (raw : Option String) : Outcome Decimal :=
  match raw with
  | none => .error (Fault.invalid "amount must be specified" Property.amount)
  | some s =>
    if Text.isAllBlank s then .error (Fault.invalid "amount must be specified" Property.amount)
    else
      match Decimal.ofText? s with
      | none => .error (invalidAmount s)
      | some amount =>
        match amount.isNegative? with
        | none => .error (.arithmetic .invalidOperation)
        | some true => .error (invalidAmount s)
        | some false => .ok amount

/-- The key under which properties ask for a hosted payment, if they do. -/
def hostedKey? (properties : Bag) : Option String :=
  nonEmpty (properties.text? Property.paymentExternalKey)

namespace Engine

variable {σ : Type}

/-- The moment so many minutes later, as a text. -/
def validityText (now : Moment) (minutes : Int) : Outcome String :=
  match now.addSeconds (60 * minutes) with
  | some m => .ok m.text
  | none => .error .dateOutOfRange

/-- The circumstances of a hosted payment: skin and validity come from the settings unless the
properties give them. -/
def hostedInfo (settings : GatewaySettings) (account : Account) (properties : Bag) (now : Moment) :
    Outcome PaymentInfo := do
  let info ← PaymentInfo.ofProperties (some account) none properties
  let validity ←
    match info.sessionValidity with
    | some s => pure s
    | none => validityText now settings.sessionMinutes
  pure { info with
    skinCode := info.skinCode.or (settings.skinFor info.country)
    sessionValidity := some validity }

/-- The properties under which a pending payment is opened. -/
def pendingProperties : Bag :=
  [(Property.fromHostedPage, .text "true"),
    (Property.hostedPageStatus, .text PaymentStatus.pending.name)]

/-- Opens a pending payment when the properties ask for one. -/
def openPending (c : Collaborators σ) (account : Account) (amount : Decimal)
    (payment : PaymentData) (properties : Bag) : Engine σ (Option PendingPayment) :=
  if properties.affirms Property.createPendingPayment then do
    let request : PendingRequest := {
      account
      authorizeOnly := properties.affirms Property.authMode
      amount
      currency := payment.currency
      externalKey := payment.externalKey
      properties := pendingProperties }
    let answer ← ask (c.openPending request)
    noteOpening ⟨request, answer⟩
    let opened ← ofOutcome answer
    pure (some opened)
  else pure none

/-- A form that could not be built, as the billing platform is told. Business errors pass as they
are. -/
def formFault (externalKey : String) (e : Fault) : Fault :=
  match e with
  | .business e => .business e
  | e =>
    .business (.hostedPage ("Unable to build hosted payment page form: " ++ e.text)
      (some [("transaction_external_key", .text externalKey)]))

/-- Stores the request of a form. -/
def fileRequest (c : Collaborators σ) (request : HostedRequest) : Engine σ RequestRow :=
  write c "add_hpp_request" fun s => pure (s.addRequest request)

/-- Builds a form on a hosted page. -/
def buildForm (c : Collaborators σ) (page : HostedPage) (accountId : String) (properties : Bag) :
    Engine σ FormDescriptor := do
  let amount ← ofOutcome (readAmount (properties.text? Property.amount))
  let account ← consult (c.account accountId)
  let some currency := nonEmpty (properties.textOr Property.currency account.currency)
    | throw (Fault.invalid "currency must be specified" Property.currency)
  let now ← consult c.clock
  let externalKey ←
    match hostedKey? properties with
    | some key => pure key
    | none => ask c.freshKey
  let info ← ofOutcome (hostedInfo c.settings account properties now)
  let payment ← ofOutcome (PaymentData.make (some amount) (some currency) externalKey info)
  let user := UserData.ofProperties (some account) properties
  let opened ← openPending c account amount payment properties
  let createdAt ← ofOutcome (recordedMoment now)
  let _ ← fileRequest c {
    accountId
    paymentId := opened.map PendingPayment.paymentId
    transactionId := opened.map PendingPayment.transactionId
    externalKey
    additionalData := properties
    createdAt := some createdAt }
  let merchantAccount := some (c.settings.merchantAccountFor payment.info.country properties)
  let fields ← ofOutcome <|
    match page.fields merchantAccount payment user (SplitSettlement.ofProperties properties) with
    | .ok fields => .ok fields
    | .error e => .error (formFault externalKey e)
  pure {
    accountId
    url := (nonEmpty (properties.text? Property.pageTarget)).getD page.target
    fields }

/-- Builds a form from custom fields and properties, of which the latter win. -/
def form (c : Collaborators σ) (accountId : String) (custom properties : Bag) :
    Engine σ FormDescriptor :=
  match c.page with
  | none => throw (.business (.hostedPage "No hosted payment page configured" none))
  | some page => buildForm c page accountId (Bag.merge [custom, properties])

end Engine

end CardPayments
