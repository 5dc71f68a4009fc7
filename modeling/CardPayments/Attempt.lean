import CardPayments.Fault
import CardPayments.Text.Letter

/-!
# Payment attempts

The billing platform asks for one transaction at a time. An attempt is checked once, in a fixed
order, before anything else happens to it.
-/

namespace CardPayments

/-- What the billing platform asks for. -/
inductive TransactionType where
  /-- Reserve an amount. -/
  | authorize
  /-- Take a reserved amount. -/
  | capture
  /-- Reserve and take an amount. -/
  | purchase
  /-- Release a reserved amount. -/
  | void
  /-- Give a taken amount back. -/
  | refund
  /-- Pay an amount out. -/
  | credit
  deriving DecidableEq, Repr

namespace TransactionType

/-- All types. -/
def all : List TransactionType := [.authorize, .capture, .purchase, .void, .refund, .credit]

/-- The name that is stored and shown. -/
def name : TransactionType → String
  | .authorize => "AUTHORIZE"
  | .capture => "CAPTURE"
  | .purchase => "PURCHASE"
  | .void => "VOID"
  | .refund => "REFUND"
  | .credit => "CREDIT"

/-- The type of a name. -/
def ofName? (s : String) : Option TransactionType := all.find? (·.name == s)

theorem ofName?_name (t : TransactionType) : ofName? t.name = some t := by cases t <;> decide

/-- Whether transactions of the type begin a payment. -/
def isInitial : TransactionType → Bool
  | .authorize | .purchase | .credit => true
  | .capture | .void | .refund => false

/-- Whether transactions of the type reserve an amount that follow-ups can act on. -/
def isAuthorization : TransactionType → Bool
  | .authorize | .purchase => true
  | _ => false

end TransactionType

/-- One transaction asked for by the billing platform. -/
structure Attempt where
  /-- The account. -/
  accountId : String
  /-- The payment. -/
  paymentId : String
  /-- The transaction. -/
  transactionId : String
  /-- The stored payment method. -/
  paymentMethodId : Option String
  /-- What is asked for. -/
  kind : TransactionType
  /-- The amount. -/
  amount : Option Decimal
  /-- The currency. -/
  currency : Option String
  /-- Further properties. -/
  properties : Bag

/-- Why an attempt is refused. -/
inductive AttemptDefect where
  /-- An identifier is empty. -/
  | missingId (field : String)
  /-- The amount is missing. -/
  | missingAmount (kind : TransactionType)
  /-- The currency is missing. -/
  | missingCurrency (kind : TransactionType)
  /-- The amount is negative. -/
  | negativeAmount (amount : Decimal)
  /-- The currency is not three letters. -/
  | malformedCurrency (currency : String)
  deriving DecidableEq, Repr

namespace AttemptDefect

/-- The message of a defect. -/
def message : AttemptDefect → String
  | .missingId field => field ++ " 不能为空"
  | .missingAmount kind => kind.name ++ " 交易必须指定金额"
  | .missingCurrency kind => kind.name ++ " 交易必须指定币种"
  | .negativeAmount amount => "交易金额不能为负: " ++ amount.text
  | .malformedCurrency currency => "无效的货币代码: " ++ currency

/-- The field that is to blame. -/
def field : AttemptDefect → String
  | .missingId field => field
  | .missingAmount _ => "amount"
  | .missingCurrency _ => "currency"
  | .negativeAmount _ => "amount"
  | .malformedCurrency _ => "currency"

/-- A defect as a fault. -/
def toFault (d : AttemptDefect) : Fault := Fault.invalid d.message d.field

end AttemptDefect

/-- Three letters of any script. -/
def isCurrencyCode (s : String) : Bool := s.toList.length == 3 && Text.isAlphabetic s

namespace Attempt

/-- Refuses an empty identifier. -/
def checkId (field value : String) : Outcome Unit :=
  if value = "" then .error (AttemptDefect.missingId field).toFault else .ok ()

/-- Refuses a missing amount or currency, unless a reservation is released. -/
def checkPresence (a : Attempt) : Outcome Unit :=
  if a.kind = .void then .ok ()
  else if a.amount = none then .error (AttemptDefect.missingAmount a.kind).toFault
  else if a.currency.getD "" = "" then .error (AttemptDefect.missingCurrency a.kind).toFault
  else .ok ()

/-- Refuses a negative amount. A NaN cannot be compared. -/
def checkAmount : Option Decimal → Outcome Unit
  | none => .ok ()
  | some amount =>
    match amount.isNegative? with
    | none => .error (.arithmetic .invalidOperation)
    | some true => .error (AttemptDefect.negativeAmount amount).toFault
    | some false => .ok ()

/-- Refuses a currency that is not three letters. -/
def checkCurrency : Option String → Outcome Unit
  | none => .ok ()
  | some currency =>
    if currency = "" ∨ isCurrencyCode currency then .ok ()
    else .error (AttemptDefect.malformedCurrency currency).toFault

/-- Checks an attempt; the first defect counts. -/
def check (a : Attempt) : Outcome Unit := do
  checkId "kb_account_id" a.accountId
  checkId "kb_payment_id" a.paymentId
  checkId "kb_transaction_id" a.transactionId
  a.checkPresence
  checkAmount a.amount
  checkCurrency a.currency

end Attempt

end CardPayments
