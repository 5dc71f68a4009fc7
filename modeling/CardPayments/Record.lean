import CardPayments.Attempt
import CardPayments.Moment
import CardPayments.Status

/-!
# Records

Every gateway response is recorded under the identifiers of its attempt, in columns for what is
looked up and in a bag for the rest. The same rule serves responses to calls and notifications.
-/

namespace CardPayments

/-- A recorded response. -/
structure ResponseRecord where
  /-- The account. -/
  accountId : String
  /-- The payment. -/
  paymentId : String
  /-- The transaction. -/
  transactionId : String
  /-- What was asked for. -/
  kind : TransactionType
  /-- The amount. -/
  amount : Option Decimal
  /-- The currency. -/
  currency : Option String
  /-- The id of the business result. -/
  pspResult : Option String := none
  /-- The gateway's own result code or acknowledgement. -/
  resultCode : Option String := none
  /-- The gateway reference. -/
  pspReference : Option String := none
  /-- The authorization code. -/
  authCode : Option String := none
  /-- Why the payment was refused. -/
  refusalReason : Option String := none
  /-- Everything else that came with the response. -/
  additionalData : Bag := []
  /-- When the response was recorded, in universal time. -/
  createdAt : Option Moment := none

/-- The moment in universal time, as records keep it. -/
def recordedMoment (m : Moment) : Outcome Moment :=
  match m.toUniversal with
  | some u => .ok u
  | none => .error .dateOutOfRange

namespace ResponseRecord

/-- A record without any result. -/
def blank (a : Attempt) (createdAt : Moment) : ResponseRecord where
  accountId := a.accountId
  paymentId := a.paymentId
  transactionId := a.transactionId
  kind := a.kind
  amount := a.amount
  currency := a.currency
  createdAt := some createdAt

/-- The properties of a purchase as they are recorded: what the browser has to send on, under
everything else, under the technical failure. -/
def purchaseData (r : PurchaseResult) : Bag :=
  let data := r.additionalData.onto (Bag.onto r.formParameters [])
  match r.callErrorStatus with
  | some e => data.put Property.callErrorStatus (.text e.name)
  | none => data

/-- Fills in what a response brings. -/
def fill (record : ResponseRecord) : GatewayResponse → Outcome ResponseRecord
  | .purchase r =>
    .ok { record with
      pspResult := r.result.map PspResult.code
      resultCode := r.resultCode
      pspReference := r.pspReference
      authCode := r.authCode
      refusalReason := r.reason
      additionalData := purchaseData r }
  | .modification r =>
    .ok { record with
      pspResult := r.result.map PspResult.code
      resultCode := r.response
      pspReference := r.pspReference
      additionalData := r.additionalData }
  | .notification properties =>
    .ok { record with
      pspResult := properties.text? Property.pspResult
      resultCode := properties.text? Property.resultCode
      pspReference := properties.text? Property.pspReference
      authCode := properties.text? Property.authCode
      refusalReason := properties.text? Property.reason
      additionalData := properties }
  | .unrecognised kind => .error (.unsupportedResponse kind)

/-- The record of a response to an attempt. -/
def ofResponse (a : Attempt) (response : GatewayResponse) (now : Moment) :
    Outcome ResponseRecord := do
  let record ← (blank a now).fill response
  let createdAt ← recordedMoment now
  pure { record with createdAt := some createdAt }

/-- A text that replaces another one if it is there and not empty. -/
def replaceBy (old : Option String) : Option String → Option String
  | some new => if new = "" then old else some new
  | none => old

/-- Lays further properties over those of the record. A gateway reference or an authorization code
among them also replaces that of the record. -/
def mergeProperties (record : ResponseRecord) (properties : Bag) : ResponseRecord :=
  { record with
    additionalData := properties.onto record.additionalData
    pspReference := replaceBy record.pspReference (properties.text? Property.pspReference)
    authCode := replaceBy record.authCode (properties.text? Property.authCode) }

end ResponseRecord

/-- A stored payment method. -/
structure PaymentMethod where
  /-- The billing platform's identifier. -/
  id : Option String
  /-- The account. -/
  accountId : Option String := none
  /-- The gateway's token. -/
  token : Option String := none
  /-- Properties that go along with every use. -/
  additionalData : Bag := []
  deriving Inhabited

/-- A request for a hosted page, which ties a later notification to a payment. -/
structure HostedRequest where
  /-- The account. -/
  accountId : String
  /-- The pending payment, if one was opened. -/
  paymentId : Option String
  /-- The pending transaction, if one was opened. -/
  transactionId : Option String
  /-- The key that the notification will carry. -/
  externalKey : String
  /-- The properties of the request. -/
  additionalData : Bag := []
  /-- When the page was requested, in universal time. -/
  createdAt : Option Moment := none
  deriving Inhabited

/-- The request of an account under a key, neither of which may be missing. -/
def HostedRequest.identified (request : HostedRequest) (accountId externalKey : Option String) :
    Outcome HostedRequest :=
  match accountId, externalKey with
  | some accountId, some externalKey => .ok { request with accountId, externalKey }
  | _, _ => .error .constraintViolated

end CardPayments
