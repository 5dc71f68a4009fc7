import CardPayments.Fault

/-!
# Payment status

Every gateway outcome collapses into one of five statuses, either from a fresh response or from the
columns and properties under which it was recorded.
-/

namespace CardPayments

/-- The status of a payment as the billing platform sees it. -/
inductive PaymentStatus where
  /-- The outcome is open. -/
  | pending
  /-- The payment went through. -/
  | processed
  /-- The payment failed. -/
  | error
  /-- The payment never reached the gateway. -/
  | canceled
  /-- Nobody knows. -/
  | undefined
  deriving DecidableEq, Repr

namespace PaymentStatus

/-- All statuses. -/
def all : List PaymentStatus := [.pending, .processed, .error, .canceled, .undefined]

/-- The name of a status. -/
def name : PaymentStatus → String
  | .pending => "PENDING"
  | .processed => "PROCESSED"
  | .error => "ERROR"
  | .canceled => "CANCELED"
  | .undefined => "UNDEFINED"

/-- The status of a name, in any case and with blanks around it. The fault quotes the name in upper
case. -/
def ofText (s : String) : Outcome PaymentStatus :=
  let name := Text.toUpper (Text.trim s)
  match all.find? (·.name == name) with
  | some status => .ok status
  | none => .error (.unknownStatus name)

/-- The status after a technical failure. -/
def ofCallError : CallErrorStatus → PaymentStatus
  | .requestNotSent => .canceled
  | .invalidRequest => .canceled
  | .responseNotReceived => .undefined
  | .responseInvalid => .undefined
  | .unknownFailure => .undefined

/-- The status after a business result. -/
def ofResult : Option PspResult → PaymentStatus
  | some .initialised => .pending
  | some .redirectShopper => .pending
  | some .received => .pending
  | some .pending => .pending
  | some .authorised => .processed
  | some .refused => .error
  | some .error => .error
  | some .cancelled => .error
  | none => .undefined

/-- The status of a purchase, of which exactly one outcome must be there. -/
def ofOutcome : Option CallErrorStatus → Option PspResult → Outcome PaymentStatus
  | none, some result => .ok (ofResult (some result))
  | some callError, none => .ok (ofCallError callError)
  | callError, result => .error (.contradictoryOutcome callError result)

/-- The technical failure named by the properties of a record; an unknown failure when there is
none. -/
def recordedCallError (data : Bag) : Outcome CallErrorStatus :=
  match data.get? Property.callErrorStatus with
  | some value =>
    if value.isTruthy then
      match CallErrorStatus.ofName? value.toText with
      | some e => .ok e
      | none => .error (.unknownCallError value.toText)
    else .ok .unknownFailure
  | none => .ok .unknownFailure

/-- The status of a record: by its business result when it has one, otherwise by the technical
failure among its properties. -/
def ofRecorded (result : Option String) (data : Bag) : Outcome PaymentStatus :=
  match result with
  | some code =>
    if code = "" then (recordedCallError data).map ofCallError
    else .ok (ofResult (PspResult.ofCode? code))
  | none => (recordedCallError data).map ofCallError

end PaymentStatus

namespace ModificationResult

/-- The business result of a modification: an accepted request is received, never yet done. -/
def result (r : ModificationResult) : Option PspResult :=
  if r.accepted then some .received else none

end ModificationResult

namespace GatewayResponse

/-- The status of a response. -/
def status : GatewayResponse → Outcome PaymentStatus
  | .purchase r => PaymentStatus.ofOutcome r.callErrorStatus r.result
  | .modification r =>
    match r.result with
    | some result => PaymentStatus.ofOutcome none (some result)
    | none => PaymentStatus.ofRecorded none r.additionalData
  | .notification properties =>
    PaymentStatus.ofRecorded (properties.text? Property.pspResult) properties
  | .unrecognised kind => .error (.unsupportedResponse kind)

end GatewayResponse

end CardPayments
