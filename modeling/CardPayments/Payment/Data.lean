import CardPayments.Attempt
import CardPayments.Checked

/-!
# Payment data

What the gateway is told about a payment and about the shopper. The currency is put into upper case
and has to be three letters then; the amount has to be finite.
-/

namespace CardPayments

/-- An account of the billing platform. -/
structure Account where
  /-- The identifier. -/
  id : String
  /-- The merchant's own identifier. -/
  externalKey : Option String := none
  /-- The country. -/
  country : Option String := none
  /-- The currency. -/
  currency : Option String := none
  /-- The mail address. -/
  email : Option String := none
  /-- The first name. -/
  firstName : Option String := none
  /-- The last name. -/
  lastName : Option String := none
  /-- The language and country. -/
  locale : Option String := none
  deriving DecidableEq, Repr

/-- The shopper as the gateway is told. -/
structure UserData where
  /-- The merchant's identifier of the shopper. -/
  customerId : Option String := none
  /-- The mail address. -/
  email : Option String := none
  /-- The first name. -/
  firstName : Option String := none
  /-- The last name. -/
  lastName : Option String := none
  /-- The network address. -/
  ip : Option String := none
  /-- The language and country. -/
  locale : Option String := none
  deriving DecidableEq, Repr

/-- The circumstances of a payment as the gateway is told. -/
structure PaymentInfo where
  /-- The country. -/
  country : Option String := none
  /-- The token of the stored payment method. -/
  recurringDetailId : Option String := none
  /-- The kind of recurring payment. -/
  recurringType : Option String := none
  /-- Hours until the payment is captured. -/
  captureDelayHours : Option Int := none
  /-- The number of installments. -/
  installments : Option Int := none
  /-- Whether the shopper is absent. -/
  continuousAuthentication : Option Bool := none
  /-- The country of the card's issuer. -/
  issuerCountry : Option String := none
  /-- The acquirer. -/
  acquirer : Option String := none
  /-- The merchant's identifier at the acquirer. -/
  acquirerMerchantId : Option String := none
  /-- The issuer's answer to a 3-D Secure challenge. -/
  issuerAnswer : Option String := none
  /-- The merchant data of a 3-D Secure challenge. -/
  merchantData : Option String := none
  /-- Where the issuer sends the shopper back to. -/
  returnUrl : Option String := none
  /-- The shopper's browser. -/
  userAgent : Option String := none
  /-- What the shopper's browser accepts. -/
  acceptHeader : Option String := none
  /-- The minor units from which on the payment asks for 3-D Secure. -/
  secureThreshold : Option Int := none
  /-- The skin of the hosted page. -/
  skinCode : Option String := none
  /-- When the order ships. -/
  shipBeforeDate : Option String := none
  /-- How long the hosted page stays valid. -/
  sessionValidity : Option String := none
  /-- The card brand. -/
  brandCode : Option String := none
  /-- The methods that the hosted page offers. -/
  allowedMethods : Option String := none
  /-- The methods that the hosted page does not offer. -/
  blockedMethods : Option String := none
  deriving DecidableEq, Repr

/-- A payment as the gateway is told. -/
structure PaymentData where
  /-- The amount. -/
  amount : Option Decimal
  /-- The currency, in upper case. -/
  currency : Option String
  /-- The key by which the merchant knows the transaction. -/
  externalKey : String
  /-- The circumstances. -/
  info : PaymentInfo
  deriving DecidableEq, Repr

namespace PaymentData

/-- An amount, which has to be finite. -/
def checkAmount (amount : Decimal) : Checked Decimal :=
  if amount.isFinite then .ok amount else Checked.fail .finiteNumber

/-- A currency in upper case, which has to be three letters then. -/
def checkCurrency (currency : String) : Checked String :=
  let upper := Text.toUpper currency
  if isCurrencyCode upper then .ok upper else Checked.fail .valueError

/-- Payment data from its parts, of which currency and key have been checked already. -/
def ofParts (amount : Option Decimal) (currency : Checked (Option String))
    (externalKey : Checked String) (info : PaymentInfo) : Outcome PaymentData :=
  Checked.outcome
    (PaymentData.mk
      <$> Checked.under (.field "amount") (Checked.option checkAmount amount)
      <*> currency
      <*> externalKey
      <*> pure info)

/-- Payment data from its parts. -/
def make (amount : Option Decimal) (currency : Option String) (externalKey : String)
    (info : PaymentInfo) : Outcome PaymentData :=
  ofParts amount (Checked.under (.field "currency") (Checked.option checkCurrency currency))
    (.ok externalKey) info

end PaymentData

/-- The properties that split a settlement, under their short names. -/
abbrev SplitSettlement := List (String × Value)

end CardPayments
