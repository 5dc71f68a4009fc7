import CardPayments.Decimal.Rounding
import CardPayments.Gateway.Response

/-!
# Faults

A business error tells the billing platform what became of a payment: its kind decides whether a
retry is safe. Everything else that can go wrong is a fault of its own kind with a text, which
business errors quote when they wrap it.
-/

namespace CardPayments

/-- What is wrong with one field of an input. -/
inductive DefectKind where
  /-- A required field is absent. -/
  | missing
  /-- The text is not JSON. -/
  | jsonInvalid
  /-- Not an object. -/
  | modelType
  /-- Not a list. -/
  | listType
  /-- Not a table. -/
  | tableType
  /-- Not a text. -/
  | textType
  /-- A text that is no Unicode. -/
  | textUnicode
  /-- Not a whole number. -/
  | intType
  /-- A text that is not a whole number. -/
  | intParsing
  /-- A whole number of too many digits. -/
  | intParsingSize
  /-- A number with a fraction where a whole one is due. -/
  | intFromFloat
  /-- Not a truth value. -/
  | boolType
  /-- A text or number that is no truth value. -/
  | boolParsing
  /-- An infinity or a NaN. -/
  | finiteNumber
  /-- A value that breaks a rule of the field. -/
  | valueError
  deriving DecidableEq, Repr

/-- The name of a defect. -/
def DefectKind.name : DefectKind → String
  | .missing => "missing"
  | .jsonInvalid => "json_invalid"
  | .modelType => "model_type"
  | .listType => "list_type"
  | .tableType => "dict_type"
  | .textType => "string_type"
  | .textUnicode => "string_unicode"
  | .intType => "int_type"
  | .intParsing => "int_parsing"
  | .intParsingSize => "int_parsing_size"
  | .intFromFloat => "int_from_float"
  | .boolType => "bool_type"
  | .boolParsing => "bool_parsing"
  | .finiteNumber => "finite_number"
  | .valueError => "value_error"

/-- A step into an input. -/
inductive PathStep where
  /-- Into the field of an object. -/
  | field (name : String)
  /-- Into an item of a list. -/
  | index (n : Nat)
  deriving DecidableEq, Repr

/-- A step as a value. -/
def PathStep.toValue : PathStep → Value
  | .field name => .text name
  | .index n => .int n

/-- A defect and where it is. -/
structure Defect where
  /-- What is wrong. -/
  kind : DefectKind
  /-- The steps to the field. -/
  path : List PathStep
  deriving DecidableEq, Repr

/-- A defect as a value. -/
def Defect.toValue (d : Defect) : Value :=
  .table [("type", .text d.kind.name), ("loc", .list (d.path.map PathStep.toValue))]

/-- An error that the billing platform is told. -/
inductive BusinessError where
  /-- The caller's input cannot be used. -/
  | invalidInput (message : String) (field : Option String) (details : Option Bag)
  /-- A follow-up finds no authorization to act on. -/
  | missingAuthorization (paymentId transactionId : String)
  /-- The gateway client failed; no money moved. -/
  | gatewayCallFailed (operation message : String) (details : Bag)
  /-- The gateway answered, but its answer could not be recorded. -/
  | resultNotRecorded (message : String) (reference status : Option String) (details : Bag)
  /-- The record store failed before the gateway was called. -/
  | recordStore (message : String) (details : Option Bag)
  /-- The form of the hosted page could not be built. -/
  | hostedPage (message : String) (details : Option Bag)
  /-- An error with a code of its own. -/
  | other (code : Int) (message kind : String) (details : Option Bag) (field : Option String)

namespace BusinessError

/-- The number of an error. -/
def code : BusinessError → Int
  | .invalidInput .. => 10003
  | .gatewayCallFailed .. => 60000
  | .resultNotRecorded .. => 60001
  | .missingAuthorization .. => 60002
  | .recordStore .. => 60003
  | .hostedPage .. => 60004
  | .other code .. => code

/-- The kind of an error. -/
def kind : BusinessError → String
  | .invalidInput .. => "DomainValidationError"
  | .missingAuthorization .. => "MissingPriorResponse"
  | .gatewayCallFailed .. => "GatewayCallFailed"
  | .resultNotRecorded .. => "ResultNotRecorded"
  | .recordStore .. => "RecordStoreError"
  | .hostedPage .. => "HostedPaymentPageError"
  | .other _ _ kind .. => kind

/-- The message of an error. -/
def message : BusinessError → String
  | .invalidInput message .. => message
  | .missingAuthorization _ transactionId =>
    "Unable to retrieve previous payment response for kbTransactionId " ++ transactionId
  | .gatewayCallFailed _ message _ => message
  | .resultNotRecorded message .. => message
  | .recordStore message _ => message
  | .hostedPage message _ => message
  | .other _ message .. => message

/-- The details of an error. Given details win over those that the kind of error brings. -/
def details : BusinessError → Option Bag
  | .invalidInput _ _ details => details
  | .missingAuthorization paymentId transactionId =>
    some [("kb_payment_id", .text paymentId), ("kb_transaction_id", .text transactionId)]
  | .gatewayCallFailed operation _ details => some (details.onto [("operation", .text operation)])
  | .resultNotRecorded _ reference status details =>
    some (details.onto [("psp_reference", .ofText? reference), ("status", .ofText? status)])
  | .recordStore _ details => details
  | .hostedPage _ details => details
  | .other _ _ _ details _ => details

/-- The field that an error is about. -/
def field : BusinessError → Option String
  | .invalidInput _ field _ => field
  | .other _ _ _ _ field => field
  | _ => none

/-- Whether the same call may be made again. -/
def retryable : BusinessError → Bool
  | .gatewayCallFailed .. => true
  | _ => false

end BusinessError

/-- Whatever ends an operation without a result. -/
inductive Fault where
  /-- An error that the billing platform is told. -/
  | business (e : BusinessError)
  /-- An arithmetic operation without a result. -/
  | arithmetic (e : ArithmeticFault)
  /-- Fields of an input that cannot be used. -/
  | invalidFields (defects : List Defect)
  /-- A payment status of no known name. -/
  | unknownStatus (name : String)
  /-- A technical failure of no known name. -/
  | unknownCallError (name : String)
  /-- A purchase with both or neither of a technical failure and a business result. -/
  | contradictoryOutcome (callError : Option CallErrorStatus) (result : Option PspResult)
  /-- A response of none of the known kinds. -/
  | unsupportedResponse (kind : String)
  /-- A form without amount or currency. -/
  | amountRequired
  /-- A moment beyond the calendar. -/
  | dateOutOfRange
  /-- A row that breaks a rule of the store. -/
  | constraintViolated
  /-- A failure of a collaborator, in its own words. -/
  | outside (kind message : String)

namespace Fault

/-- A technical failure as an error message shows it. -/
def callErrorText : Option CallErrorStatus → String
  | none => "None"
  | some e => "<CallErrorStatus." ++ e.name ++ ": " ++ Text.quoted e.name ++ ">"

/-- Ids in parentheses; a single one is followed by a comma. -/
def idsText : List String → String
  | [id] => "(" ++ Text.quoted id ++ ",)"
  | ids => "(" ++ String.intercalate ", " (ids.map Text.quoted) ++ ")"

/-- A business result as an error message shows it. -/
def resultText : Option PspResult → String
  | none => "None"
  | some r => "<PspResult." ++ r.name ++ ": " ++ idsText r.ids ++ ">"

/-- The text of a fault, as messages quote it. -/
def text : Fault → String
  | .business e => e.message
  | .arithmetic .invalidOperation => "[<class 'decimal.InvalidOperation'>]"
  | .arithmetic .overflow => "[<class 'decimal.Overflow'>]"
  | .arithmetic .nanAsInteger => "cannot convert NaN to integer"
  | .arithmetic .signalingNan => "Cannot hash a signaling NaN value"
  | .invalidFields defects => Text.ofNat defects.length ++ " invalid fields"
  | .unknownStatus name => Text.quoted name ++ " is not a valid PaymentPluginStatus"
  | .unknownCallError name => Text.quoted name ++ " is not a valid CallErrorStatus"
  | .contradictoryOutcome callError result =>
    "Exactly one of call_error_status and psp_result must be present, got call_error_status=" ++
      callErrorText callError ++ ", psp_result=" ++ resultText result
  | .unsupportedResponse kind => "Unsupported gateway response: " ++ kind
  | .amountRequired => "amount and currency are required for a hosted payment page form"
  | .dateOutOfRange => "date value out of range"
  | .constraintViolated => "constraint violated"
  | .outside _ message => message

/-- Whether the billing platform is told the fault as it is. -/
def isBusiness : Fault → Bool
  | .business _ => true
  | _ => false

/-- Input that cannot be used, with the field that is to blame. -/
def invalid (message field : String) : Fault := .business (.invalidInput message (some field) none)

end Fault

/-- The result of a computation that may end in a fault. -/
abbrev Outcome (α : Type) := Except Fault α

end CardPayments
