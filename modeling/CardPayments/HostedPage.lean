import CardPayments.MinorUnit
import CardPayments.Payment.Mapping

/-!
# The hosted payment page

The shopper may pay on a page of the gateway. The merchant sends a form there, whose fields the page
adapter makes from the payment, the shopper and the properties that split the settlement.
-/

namespace CardPayments

/-- The fields of a form, in order. -/
abbrev FormFields := List (String × String)

/-- A hosted payment page. -/
structure HostedPage where
  /-- The address of the page. -/
  target : String
  /-- The fields of a form for a merchant account. -/
  fields : Option String → PaymentData → UserData → Option SplitSettlement → Outcome FormFields

namespace HostedPage

/-- The fields that every unsigned form has, as far as they have values. -/
def fixedFields (merchantAccount : Option String) (payment : PaymentData) (currency : String)
    (units : Int) (user : UserData) : List (String × Option String) :=
  [("merchantAccount", merchantAccount), ("merchantReference", some payment.externalKey),
    ("paymentAmount", some (Text.ofInt units)), ("currencyCode", some currency),
    ("skinCode", payment.info.skinCode), ("sessionValidity", payment.info.sessionValidity),
    ("shipBeforeDate", payment.info.shipBeforeDate), ("countryCode", payment.info.country),
    ("brandCode", payment.info.brandCode), ("allowedMethods", payment.info.allowedMethods),
    ("blockedMethods", payment.info.blockedMethods), ("shopperLocale", user.locale),
    ("shopperEmail", user.email), ("shopperReference", user.customerId)]

/-- The fields that split the settlement, under their full names. -/
def splitFields (split : Option SplitSettlement) : List (String × Option String) :=
  (split.getD []).map fun entry => (Property.splitSettlement ++ entry.1, entry.2.toText?)

/-- The fields that have values. -/
def present (fields : List (String × Option String)) : FormFields :=
  fields.filterMap fun field => field.2.map fun s => (field.1, s)

/-- The fields of an unsigned form. -/
def unsignedFields (merchantAccount : Option String) (payment : PaymentData) (user : UserData)
    (split : Option SplitSettlement) : Outcome FormFields :=
  match payment.amount, payment.currency with
  | some amount, some currency =>
    match MinorUnit.ofAmount amount currency with
    | .ok units =>
      .ok (present (fixedFields merchantAccount payment currency units user ++ splitFields split))
    | .error e => .error (.arithmetic e)
  | _, _ => .error .amountRequired

end HostedPage

end CardPayments
