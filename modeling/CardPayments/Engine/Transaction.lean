import CardPayments.Engine.World
import CardPayments.Info
import CardPayments.Routing

/-!
# Transactions

A transaction goes through a fixed sequence: what is known of it is looked up, the gateway is called
at most once, its answer is recorded in one row, and the billing platform is told. A transaction
that already has a row is answered from that row, except by a shopper who returns from 3-D Secure.
-/

namespace CardPayments.Engine

variable {σ : Type}

/-- Records properties as a notification, without any call. -/
def recordOnly (c : Collaborators σ) (a : Attempt) : Engine σ TransactionInfo := do
  let now ← consult c.clock
  let row ← write c "add_notification_record" fun s => do
    let record ← ResponseRecord.ofResponse a (.notification a.properties) now
    pure (s.addResponse record)
  ofOutcome (TransactionInfo.ofRecord row.record)

/-- A response that could not be recorded, as the billing platform is told. -/
def lostFault (a : Attempt) (response : GatewayResponse) (status : PaymentStatus) (e : Fault) :
    Fault :=
  .business (.resultNotRecorded
    ("Gateway processed the transaction but the result could not be recorded: " ++ e.text)
    response.reference? (some status.name)
    [("kb_payment_id", .text a.paymentId), ("kb_transaction_id", .text a.transactionId)])

/-- Records a response and tells what it means. -/
def recordResponse (c : Collaborators σ) (a : Attempt) (response : GatewayResponse) :
    Engine σ TransactionInfo := do
  let now ← consult c.clock
  let status ← ofOutcome response.status
  let _ ← rephrase (lostFault a response status) <| writeStore c fun s => do
    let record ← ResponseRecord.ofResponse a response now
    pure (s.addResponse record)
  ofOutcome (TransactionInfo.ofResponse a response now)

/-- The stored payment method of an attempt, or an empty one. -/
def loadMethod (c : Collaborators σ) (a : Attempt) : Engine σ PaymentMethod :=
  match nonEmpty a.paymentMethodId with
  | none => pure { id := none }
  | some id => do
    let method ← read c "get_payment_method" (·.method? (some id))
    pure (method.getD { id := some id })

/-- What the gateway is told about the payment of an attempt. -/
def paymentData (c : Collaborators σ) (a : Attempt) (account : Account) (method : PaymentMethod)
    (properties : Bag) : Engine σ PaymentData := do
  let externalKey ← consult (c.externalKey a.paymentId a.transactionId)
  let info ← ofOutcome (PaymentInfo.ofProperties (some account) method.token properties)
  ofOutcome (PaymentData.make a.amount a.currency externalKey info)

/-- The operation that serves an initial transaction. -/
def initialOperation : CallMode → InitialOperation
  | .secureContinuation => .authorizeSecure
  | .credit => .credit
  | _ => .authorize

/-- Carries out a transaction that begins a payment. -/
def executeInitial (c : Collaborators σ) (a : Attempt) (mode : CallMode) :
    Engine σ TransactionInfo := do
  let account ← consult (c.account a.accountId)
  let method ← loadMethod c a
  let properties := Bag.merge [method.properties, a.properties]
  let payment ← paymentData c a account method properties
  let response ← callGateway c (.initial (initialOperation mode)
    (some (c.settings.merchantAccountFor payment.info.country properties)) payment
    (UserData.ofProperties (some account) properties) (SplitSettlement.ofProperties properties))
  recordResponse c a response

/-- The operation that serves a follow-up. -/
def followUpOperation : TransactionType → FollowUpOperation
  | .capture => .capture
  | .void => .cancel
  | _ => .refund

/-- Carries out a transaction that acts on an earlier authorization. -/
def executeFollowUp (c : Collaborators σ) (a : Attempt) (prior : Option ResponseRecord) :
    Engine σ TransactionInfo :=
  match nonEmpty (prior.bind ResponseRecord.pspReference) with
  | none => throw (.business (.missingAuthorization a.paymentId a.transactionId))
  | some reference => do
    let account ← consult (c.account a.accountId)
    let method ← loadMethod c a
    let payment ← paymentData c a account method a.properties
    let response ← callGateway c (.followUp (followUpOperation a.kind)
      (some (c.settings.merchantAccountFor payment.info.country a.properties)) payment
      (some reference) (SplitSettlement.ofProperties a.properties))
    recordResponse c a response

/-- Carries out a transaction that calls the gateway unless it is known already. -/
def executeOrReplay (c : Collaborators σ) (a : Attempt) (prior : Option ResponseRecord)
    (mode : CallMode) : Engine σ TransactionInfo := do
  let existing ← read c "get_transaction_response" (·.latestOf? a.transactionId a.kind)
  match existing with
  | some row =>
    if CallMode.awaitsSecure mode row.record then executeInitial c a mode
    else ofOutcome (TransactionInfo.ofRecord row.record)
  | none =>
    if mode = .modification then executeFollowUp c a prior else executeInitial c a mode

/-- Carries out an attempt that has been checked. -/
def carryOut (c : Collaborators σ) (a : Attempt) : Engine σ TransactionInfo :=
  if a.properties.affirms Property.fromHostedPage then recordOnly c a
  else do
    let prior ← read c "get_successful_authorization_response"
      fun s => (s.latestAuthorization? a.paymentId).map Row.record
    executeOrReplay c a prior
      (CallMode.route a.kind false (CallMode.resumesSecure prior a.transactionId))

/-- Checks an attempt and carries it out. -/
def process (c : Collaborators σ) (a : Attempt) : Engine σ TransactionInfo := do
  ofOutcome a.check
  carryOut c a

/-- A purchase that captures at once unless its properties give a delay. -/
def withCaptureDelay (a : Attempt) : Attempt :=
  { a with properties := a.properties.putNew Property.captureDelayHours (.text "0") }

/-- A purchase. A shopper who comes back from the hosted page brings properties for the row that is
already there; no call is made for one. -/
def purchase (c : Collaborators σ) (a : Attempt) : Engine σ TransactionInfo := do
  ofOutcome a.check
  let row ← write c "update_response" fun s =>
    pure (s.updateResponse a.transactionId a.properties)
  match row with
  | some row => ofOutcome (TransactionInfo.ofRecord row.record)
  | none => carryOut c (withCaptureDelay a)

/-- What the billing platform asks for. -/
def submit (c : Collaborators σ) (a : Attempt) : Engine σ TransactionInfo :=
  if a.kind = .purchase then purchase c a else process c a

/-- Everything recorded of a payment, oldest first. -/
def paymentInfo (c : Collaborators σ) (paymentId : String) : Engine σ (List TransactionInfo) := do
  let rows ← read c "get_responses" (·.ofPayment paymentId)
  rows.mapM fun row => ofOutcome (TransactionInfo.ofRecord row.record)

end CardPayments.Engine
