import CardPayments.Engine.Transaction
import CardPayments.Notification.Item

/-!
# Taking notifications in

A notification carries no identifiers of the billing platform. Each item is matched to a recorded
response by its gateway reference, or to a hosted-page request by the merchant's key, and is then
recorded as an attempt of its own. Items that match nothing, tell nothing of a payment or cannot be
an attempt are passed over, and so are items that are recorded already.
-/

namespace CardPayments

/-- What an item belongs to. -/
inductive NotificationMatch where
  /-- A recorded response. -/
  | response (record : ResponseRecord)
  /-- A request for a hosted page that opened a pending payment. -/
  | request (accountId paymentId transactionId : String) (request : HostedRequest)

namespace NotificationMatch

/-- The match of a request, if a pending payment was opened for it. -/
def ofRequest? (r : HostedRequest) : Option NotificationMatch :=
  match nonEmpty r.paymentId, nonEmpty r.transactionId with
  | some paymentId, some transactionId => some (.request r.accountId paymentId transactionId r)
  | _, _ => none

/-- The recorded amount. -/
def amount? : NotificationMatch → Option Decimal
  | .response record => record.amount
  | .request .. => none

/-- The recorded currency. -/
def currency? : NotificationMatch → Option String
  | .response record => record.currency
  | .request .. => none

end NotificationMatch

namespace NotificationItem

/-- The event of an authorization. -/
def authorisation : String := "AUTHORISATION"

/-- The transaction that an event tells of. -/
def kindOfEvent? (eventCode : String) : Option TransactionType :=
  if eventCode = authorisation then some .authorize
  else if eventCode = "CAPTURE" then some .capture
  else if eventCode = "CANCELLATION" then some .void
  else if eventCode = "REFUND" then some .refund
  else if eventCode = "CANCEL_OR_REFUND" then some .refund
  else if eventCode = "REFUND_WITH_DATA" then some .credit
  else none

/-- What an item belongs to in a store. A request without a pending payment matches nothing. -/
def find? (item : NotificationItem) (s : Store) : Option NotificationMatch :=
  let row :=
    (nonEmpty item.pspReference).bind fun reference => s.latestByReference? (some reference)
  match row with
  | some row => some (.response row.record)
  | none =>
    ((nonEmpty item.merchantReference).bind s.latestRequest?).bind fun row =>
      NotificationMatch.ofRequest? row.request

/-- The transaction of an authorization: as it was recorded, or as the hosted page was requested. -/
def authorizationKind : NotificationMatch → TransactionType
  | .response record => if record.kind.isAuthorization then record.kind else .authorize
  | .request _ _ _ r =>
    if r.additionalData.affirms Property.authMode then .authorize else .purchase

/-- The transaction that an item tells of. -/
def kindFor (item : NotificationItem) (kind : TransactionType) (found : NotificationMatch) :
    TransactionType :=
  if item.eventCode = authorisation then authorizationKind found else kind

/-- The business result that an item stands for. -/
def result (item : NotificationItem) : PspResult :=
  if !item.success then .refused
  else if item.eventCode = authorisation then .authorised
  else .received

/-- The status that an item stands for. -/
def status (item : NotificationItem) : PaymentStatus := if item.success then .processed else .error

/-- The word for success or failure. -/
def successWord (item : NotificationItem) : String := if item.success then "true" else "false"

/-- The properties that an item always brings. -/
def fixedProperties (item : NotificationItem) : Bag :=
  [(Property.fromHostedPage, .text "true"), (Property.hostedPageStatus, .text item.status.name),
    (Property.pspResult, .text item.result.code), (Property.eventCode, .text item.eventCode),
    (Property.success, .text item.successWord)]

/-- The properties that an item brings if it has them. -/
def optionalProperties (item : NotificationItem) : Bag :=
  [(Property.reason, item.reason), (Property.pspReference, item.pspReference),
    (Property.merchantReference, item.merchantReference),
    (Property.originalReference, item.originalReference)].filterMap fun entry =>
      entry.2.map fun s => (entry.1, .text s)

/-- The properties under which an item is recorded: its own fields go before everything else that
it brings. -/
def properties (item : NotificationItem) : Bag :=
  Bag.onto item.optionalProperties (Bag.onto item.fixedProperties item.additionalData)

/-- The identifiers of account, payment and transaction. -/
def identifiers : NotificationMatch → String × String × String
  | .response record => (record.accountId, record.paymentId, record.transactionId)
  | .request accountId paymentId transactionId _ => (accountId, paymentId, transactionId)

/-- The attempt that records an item. -/
def attempt (item : NotificationItem) (kind : TransactionType) (found : NotificationMatch) :
    Attempt :=
  let (accountId, paymentId, transactionId) := identifiers found
  { accountId, paymentId, transactionId
    paymentMethodId := none
    kind := item.kindFor kind found
    amount := item.amount.or found.amount?
    currency := (nonEmpty item.currency).or found.currency?
    properties := item.properties }

/-- Whether a record tells of the same event. -/
def isRecordedBy (item : NotificationItem) (record : ResponseRecord) : Bool :=
  let value (key : String) := (record.additionalData.get? key).getD .null
  (value Property.eventCode).isText item.eventCode &&
    value Property.pspReference == ((item.pspReference.map Value.text).getD .null) &&
    (value Property.success).isText item.successWord

end NotificationItem

namespace Engine

variable {σ : Type}

/-- Whether the latest row of the attempt's transaction tells of the item already. -/
def isRecorded (c : Collaborators σ) (item : NotificationItem) (a : Attempt) : Engine σ Bool := do
  let row ← readStore c (·.latestOf? a.transactionId a.kind)
  pure (row.any fun row => item.isRecordedBy row.record)

/-- Records the attempt of an item, unless it is recorded already. -/
def recordItem (c : Collaborators σ) (item : NotificationItem) (a : Attempt) : Engine σ Unit := do
  unless ← isRecorded c item a do
    let _ ← process c a

/-- Takes one item in. An attempt that breaks a rule is passed over; an attempt whose check has no
result is a fault. -/
def takeItem (c : Collaborators σ) (item : NotificationItem) : Engine σ Unit :=
  match NotificationItem.kindOfEvent? item.eventCode with
  | none => pure ()
  | some kind => do
    match ← readStore c item.find? with
    | none => pure ()
    | some found =>
      let a := item.attempt kind found
      match a.check with
      | .ok () => recordItem c item a
      | .error e => if e.isBusiness then pure () else throw e

/-- What the gateway is answered. -/
def accepted : String := "[accepted]"

/-- Takes the text of a batch in, item by item. -/
def takeNotification (c : Collaborators σ) (s : String) : Engine σ String := do
  let items ← ofOutcome (NotificationBatch.decode s)
  items.forM (takeItem c)
  pure accepted

end Engine

end CardPayments
