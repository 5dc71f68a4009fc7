import CardPayments.Record

/-!
# Routing

Which gateway call, if any, serves a transaction. A payment that comes from the hosted page is only
recorded, whatever else holds of it.
-/

namespace CardPayments

/-- How a transaction is served. -/
inductive CallMode where
  /-- By a record alone. -/
  | recordOnly
  /-- By resuming 3-D Secure. -/
  | secureContinuation
  /-- By paying out. -/
  | credit
  /-- By an authorization. -/
  | authorize
  /-- By modifying an earlier authorization. -/
  | modification
  deriving DecidableEq, Repr

namespace CallMode

/-- The name of a mode. -/
def name : CallMode → String
  | .recordOnly => "RECORD_ONLY"
  | .secureContinuation => "SECURE_CONTINUATION"
  | .credit => "CREDIT_CALL"
  | .authorize => "AUTHORIZE_OR_PURCHASE_CALL"
  | .modification => "MODIFICATION_CALL"

/-- The mode that serves a transaction. -/
def route (kind : TransactionType) (fromHostedPage secureContinuation : Bool) : CallMode :=
  if fromHostedPage then .recordOnly
  else if kind.isInitial then
    if secureContinuation then .secureContinuation
    else if kind = .credit then .credit
    else .authorize
  else .modification

/-- Whether a transaction resumes 3-D Secure: the payment's latest successful authorization belongs
to the same transaction. -/
def resumesSecure (prior : Option ResponseRecord) (transactionId : String) : Bool :=
  match prior with
  | some record => record.transactionId == transactionId
  | none => false

/-- Whether a recorded transaction may be served once more: only a shopper who was sent to 3-D
Secure comes back. -/
def awaitsSecure (mode : CallMode) (existing : ResponseRecord) : Bool :=
  mode == .secureContinuation && existing.pspResult == some PspResult.redirectShopper.code

end CallMode

end CardPayments
