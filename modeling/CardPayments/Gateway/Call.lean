import CardPayments.Payment.Data

/-!
# Gateway calls

What the gateway is asked. An initial call tells it about the payment and the shopper, a follow-up
call about the payment and the reference of the authorization that it acts on. Merchant account and
reference are passed on as they are, and may be missing.
-/

namespace CardPayments

/-- A call that begins a payment. -/
inductive InitialOperation where
  /-- Reserve an amount. -/
  | authorize
  /-- Reserve an amount after 3-D Secure. -/
  | authorizeSecure
  /-- Pay an amount out. -/
  | credit
  deriving DecidableEq, Repr

/-- A call that acts on an earlier authorization. -/
inductive FollowUpOperation where
  /-- Take the reserved amount. -/
  | capture
  /-- Release the reserved amount. -/
  | cancel
  /-- Give the taken amount back. -/
  | refund
  deriving DecidableEq, Repr

/-- The name of an operation. -/
def InitialOperation.name : InitialOperation → String
  | .authorize => "authorize"
  | .authorizeSecure => "authorize_3d_secure"
  | .credit => "credit"

/-- The name of an operation. -/
def FollowUpOperation.name : FollowUpOperation → String
  | .capture => "capture"
  | .cancel => "cancel"
  | .refund => "refund"

/-- A call to the gateway. -/
inductive GatewayCall where
  /-- A call that begins a payment. -/
  | initial (operation : InitialOperation) (merchantAccount : Option String)
      (payment : PaymentData) (user : UserData) (split : Option SplitSettlement)
  /-- A call that acts on an earlier authorization. -/
  | followUp (operation : FollowUpOperation) (merchantAccount : Option String)
      (payment : PaymentData) (reference : Option String) (split : Option SplitSettlement)

namespace GatewayCall

/-- The name of the operation. -/
def operation : GatewayCall → String
  | .initial operation .. => operation.name
  | .followUp operation .. => operation.name

/-- The merchant account that is charged. -/
def merchantAccount : GatewayCall → Option String
  | .initial _ merchantAccount .. => merchantAccount
  | .followUp _ merchantAccount .. => merchantAccount

/-- The payment. -/
def payment : GatewayCall → PaymentData
  | .initial _ _ payment .. => payment
  | .followUp _ _ payment .. => payment

/-- The properties that split the settlement. -/
def split : GatewayCall → Option SplitSettlement
  | .initial _ _ _ _ split => split
  | .followUp _ _ _ _ split => split

end GatewayCall

end CardPayments
