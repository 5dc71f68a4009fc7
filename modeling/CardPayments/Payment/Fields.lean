import CardPayments.Payment.Data

/-!
# Payment data by field names

Accounts, shoppers, and what the gateway is told of a payment are also given as tables from field
names to values. Every field is checked for its form, numbers and truth values leniently, and every
defect is told. Names that belong to no field are passed over.
-/

namespace CardPayments

/-- A text that may be absent or null. -/
def Bag.optionalText (bag : Bag) (name : String) : Checked (Option String) :=
  Checked.optional name Checked.text (bag.get? name)

/-- A whole number that may be absent or null. -/
def Bag.optionalInt (bag : Bag) (name : String) : Checked (Option Int) :=
  Checked.optional name Checked.int (bag.get? name)

/-- Checks the fields of an account. -/
def Account.ofBag (bag : Bag) : Checked Account :=
  Account.mk
    <$> Checked.required "id" Checked.text (bag.get? "id")
    <*> bag.optionalText "external_key"
    <*> bag.optionalText "country"
    <*> bag.optionalText "currency"
    <*> bag.optionalText "email"
    <*> bag.optionalText "first_name"
    <*> bag.optionalText "last_name"
    <*> bag.optionalText "locale"

/-- Checks the fields of a shopper. -/
def UserData.ofBag (bag : Bag) : Checked UserData :=
  UserData.mk
    <$> bag.optionalText "customer_id"
    <*> bag.optionalText "email"
    <*> bag.optionalText "first_name"
    <*> bag.optionalText "last_name"
    <*> bag.optionalText "ip"
    <*> bag.optionalText "locale"

/-- Checks the fields of the circumstances of a payment. -/
def PaymentInfo.ofBag (bag : Bag) : Checked PaymentInfo :=
  PaymentInfo.mk
    <$> bag.optionalText "country"
    <*> bag.optionalText "recurring_detail_id"
    <*> bag.optionalText "recurring_type"
    <*> bag.optionalInt "capture_delay_hours"
    <*> bag.optionalInt "installments"
    <*> Checked.optional "continuous_authentication" Checked.bool
      (bag.get? "continuous_authentication")
    <*> bag.optionalText "issuer_country"
    <*> bag.optionalText "acquirer"
    <*> bag.optionalText "acquirer_mid"
    <*> bag.optionalText "pa_res"
    <*> bag.optionalText "md"
    <*> bag.optionalText "term_url"
    <*> bag.optionalText "user_agent"
    <*> bag.optionalText "accept_header"
    <*> bag.optionalInt "three_d_threshold"
    <*> bag.optionalText "skin_code"
    <*> bag.optionalText "ship_before_date"
    <*> bag.optionalText "session_validity"
    <*> bag.optionalText "brand_code"
    <*> bag.optionalText "allowed_methods"
    <*> bag.optionalText "blocked_methods"

/-- Checks the fields of payment data, of which amount and circumstances have been read already. -/
def PaymentData.ofBag (amount : Option Decimal) (info : PaymentInfo) (bag : Bag) :
    Outcome PaymentData :=
  ofParts amount
    (Checked.optional "currency" (fun v => (Checked.text v).andThen checkCurrency)
      (bag.get? "currency"))
    (Checked.required "transaction_external_key" Checked.text
      (bag.get? "transaction_external_key"))
    info

end CardPayments
