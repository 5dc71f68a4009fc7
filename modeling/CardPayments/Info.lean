import CardPayments.ErrorCode
import CardPayments.Record

/-!
# Transaction information

What the billing platform gets back. It is drawn either from a fresh response or from a record; the
status that a hosted-page payment carries among its properties goes before any other.
-/

namespace CardPayments

/-- The result of a transaction as the billing platform sees it. -/
structure TransactionInfo where
  /-- The payment. -/
  paymentId : String
  /-- The transaction. -/
  transactionId : String
  /-- What was asked for. -/
  kind : TransactionType
  /-- The amount. -/
  amount : Option Decimal
  /-- The currency. -/
  currency : Option String
  /-- The status. -/
  status : PaymentStatus
  /-- The message that explains the status. -/
  errorMessage : Option String
  /-- The code that explains the status. -/
  errorCode : Option String
  /-- The gateway reference. -/
  pspReference : Option String
  /-- The authorization code. -/
  authCode : Option String
  /-- When the result was obtained. -/
  createdAt : Option Moment
  /-- When the result took effect. -/
  effectiveAt : Option Moment
  /-- Further properties. -/
  properties : Bag

namespace TransactionInfo

/-- The status that properties carry with them, or else the given one. -/
def statusOr (properties : Bag) (otherwise : Outcome PaymentStatus) : Outcome PaymentStatus :=
  match properties.text? Property.hostedPageStatus with
  | some s => PaymentStatus.ofText s
  | none => otherwise

/-- The part of a response that the billing platform gets as properties. -/
def visibleProperties : GatewayResponse → Bag
  | .purchase r => r.formParameters
  | .modification r => r.additionalData
  | .notification properties => properties
  | .unrecognised _ => []

/-- The properties of a response among which a status is sought. -/
def statusProperties : GatewayResponse → Bag
  | .purchase r => r.additionalData.onto (Bag.onto r.formParameters [])
  | response => visibleProperties response

/-- The gateway reference of a response. -/
def referenceOf : GatewayResponse → Option String
  | .notification properties => properties.text? Property.pspReference
  | response => response.reference?

/-- The authorization code of a response. -/
def authCodeOf : GatewayResponse → Option String
  | .purchase r => r.authCode
  | .notification properties => properties.text? Property.authCode
  | _ => none

/-- The information drawn from a fresh response. -/
def ofResponse (a : Attempt) (response : GatewayResponse) (now : Moment) :
    Outcome TransactionInfo := do
  let status ← statusOr (statusProperties response) response.status
  let errorMessage ← response.errorMessage
  let errorCode ← response.errorCode
  pure {
    paymentId := a.paymentId
    transactionId := a.transactionId
    kind := a.kind
    amount := a.amount
    currency := a.currency
    status
    errorMessage
    errorCode
    pspReference := referenceOf response
    authCode := authCodeOf response
    createdAt := some now
    effectiveAt := some now
    properties := visibleProperties response }

/-- The information drawn from a record. -/
def ofRecord (r : ResponseRecord) : Outcome TransactionInfo := do
  let status ← statusOr r.additionalData (PaymentStatus.ofRecorded r.pspResult r.additionalData)
  pure {
    paymentId := r.paymentId
    transactionId := r.transactionId
    kind := r.kind
    amount := r.amount
    currency := r.currency
    status
    errorMessage := CardPayments.errorMessage r.refusalReason r.additionalData
    errorCode := ErrorCode.ofOutcome r.resultCode r.additionalData r.pspResult
    pspReference := r.pspReference
    authCode := r.authCode
    createdAt := r.createdAt
    effectiveAt := r.createdAt
    properties := r.additionalData }

end TransactionInfo

end CardPayments
