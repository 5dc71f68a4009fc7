import CardPayments.Bag
import CardPayments.Property

/-!
# Gateway responses

The gateway answers a call in one of three ways: with the result of a purchase, with the
acknowledgement of a modification, or with the properties of a notification.
-/

namespace CardPayments

/-- A technical failure of a gateway call, which leaves no business result. -/
inductive CallErrorStatus where
  /-- The request was never sent. -/
  | requestNotSent
  /-- The gateway rejected the request as invalid. -/
  | invalidRequest
  /-- No response arrived. -/
  | responseNotReceived
  /-- The response could not be understood. -/
  | responseInvalid
  /-- Anything else. -/
  | unknownFailure
  deriving DecidableEq, Repr

namespace CallErrorStatus

/-- All technical failures. -/
def all : List CallErrorStatus :=
  [.requestNotSent, .invalidRequest, .responseNotReceived, .responseInvalid, .unknownFailure]

/-- The name that is stored and shown. -/
def name : CallErrorStatus → String
  | .requestNotSent => "REQUEST_NOT_SEND"
  | .invalidRequest => "RESPONSE_ABOUT_INVALID_REQUEST"
  | .responseNotReceived => "RESPONSE_NOT_RECEIVED"
  | .responseInvalid => "RESPONSE_INVALID"
  | .unknownFailure => "UNKNOWN_FAILURE"

/-- The failure of a name. -/
def ofName? (s : String) : Option CallErrorStatus := all.find? (·.name == s)

theorem ofName?_name (e : CallErrorStatus) : ofName? e.name = some e := by cases e <;> decide

end CallErrorStatus

/-- A business result reported by the gateway. -/
inductive PspResult where
  /-- The payment has begun. -/
  | initialised
  /-- The payment is authorized. -/
  | authorised
  /-- The shopper has to pass 3-D Secure. -/
  | redirectShopper
  /-- The request is accepted; its outcome is reported later. -/
  | received
  /-- The payment is refused. -/
  | refused
  /-- The outcome is open. -/
  | pending
  /-- The gateway failed. -/
  | error
  /-- The shopper gave up. -/
  | cancelled
  deriving DecidableEq, Repr

namespace PspResult

/-- All results. -/
def all : List PspResult :=
  [.initialised, .authorised, .redirectShopper, .received, .refused, .pending, .error, .cancelled]

/-- The name of a result. -/
def name : PspResult → String
  | .initialised => "INITIALISED"
  | .authorised => "AUTHORISED"
  | .redirectShopper => "REDIRECT_SHOPPER"
  | .received => "RECEIVED"
  | .refused => "REFUSED"
  | .pending => "PENDING"
  | .error => "ERROR"
  | .cancelled => "CANCELLED"

/-- The ids that the gateway uses for a result, the canonical one first. -/
def ids : PspResult → List String
  | .initialised => ["Initialised"]
  | .authorised => ["Authorised"]
  | .redirectShopper => ["RedirectShopper"]
  | .received =>
    ["Received", "[capture-received]", "[cancel-received]", "[refund-received]",
      "[cancelOrRefund-received]"]
  | .refused => ["Refused"]
  | .pending => ["Pending"]
  | .error => ["Error", "[error]"]
  | .cancelled => ["Cancelled"]

/-- The canonical id, which is stored. -/
def code : PspResult → String
  | .initialised => "Initialised"
  | .authorised => "Authorised"
  | .redirectShopper => "RedirectShopper"
  | .received => "Received"
  | .refused => "Refused"
  | .pending => "Pending"
  | .error => "Error"
  | .cancelled => "Cancelled"

/-- The result that an id stands for. -/
def ofCode? (s : String) : Option PspResult := all.find? (·.ids.contains s)

/-- The result of a name. -/
def ofName? (s : String) : Option PspResult := all.find? (·.name == s)

theorem head?_ids (r : PspResult) : r.ids.head? = some r.code := by cases r <;> rfl

/-- No id stands for two results. -/
theorem ofCode?_of_mem_ids {r : PspResult} {s : String} (h : s ∈ r.ids) : ofCode? s = some r := by
  have all_ids : ∀ s ∈ r.ids, ofCode? s = some r := by cases r <;> decide
  exact all_ids s h

theorem ofCode?_code (r : PspResult) : ofCode? r.code = some r :=
  ofCode?_of_mem_ids (List.mem_of_mem_head? (head?_ids r))

end PspResult

/-- The result of a purchase: a business result or a technical failure, never both. -/
structure PurchaseResult where
  /-- The business result. -/
  result : Option PspResult := none
  /-- The gateway's own result code. -/
  resultCode : Option String := none
  /-- The technical failure. -/
  callErrorStatus : Option CallErrorStatus := none
  /-- The gateway reference. -/
  pspReference : Option String := none
  /-- The authorization code. -/
  authCode : Option String := none
  /-- Why the payment was refused. -/
  reason : Option String := none
  /-- What the shopper's browser has to send on. -/
  formParameters : Bag := []
  /-- Everything else. -/
  additionalData : Bag := []
  deriving Inhabited

/-- The acknowledgement of a capture, a cancellation or a refund. -/
structure ModificationResult where
  /-- Whether the gateway took the request. -/
  accepted : Bool
  /-- The gateway reference. -/
  pspReference : Option String := none
  /-- The acknowledgement. -/
  response : Option String := none
  /-- Everything else. -/
  additionalData : Bag := []
  deriving Inhabited

/-- What the gateway answers. -/
inductive GatewayResponse where
  /-- The result of an initial call. -/
  | purchase (r : PurchaseResult)
  /-- The acknowledgement of a follow-up call. -/
  | modification (r : ModificationResult)
  /-- The properties of a notification. -/
  | notification (properties : Bag)
  /-- Something else, named by its kind. -/
  | unrecognised (kind : String)

namespace GatewayResponse

/-- The gateway reference that a response carries as a field of its own. -/
def reference? : GatewayResponse → Option String
  | .purchase r => r.pspReference
  | .modification r => r.pspReference
  | _ => none

end GatewayResponse

end CardPayments
