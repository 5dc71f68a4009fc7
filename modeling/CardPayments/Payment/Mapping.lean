import CardPayments.Payment.Data
import CardPayments.Record

/-!
# From properties to payment data

A property of the call goes before what the payment method or the account knows; a property without
a value counts as absent.
-/

namespace CardPayments

/-- A property that has to be a whole number. Blank texts count as absent. -/
def Bag.int? (bag : Bag) (key : String) : Outcome (Option Int) :=
  match bag.text? key with
  | none => .ok none
  | some s =>
    if Text.isAllBlank s then .ok none
    else
      match Text.toInt? s with
      | some n => .ok (some n)
      | none =>
        .error (Fault.invalid (key ++ " must be an integer, got " ++ Text.quoted s) key)

/-- A text that is there and not empty. -/
def nonEmpty : Option String → Option String
  | some s => if s = "" then none else some s
  | none => none

theorem nonEmpty_eq_some_iff {o : Option String} {s : String} :
    nonEmpty o = some s ↔ o = some s ∧ s ≠ "" := by
  cases o with
  | none => simp [nonEmpty]
  | some t =>
    simp only [nonEmpty, Option.some.injEq]
    by_cases h : t = ""
    · subst h
      simp [eq_comm]
    · rw [if_neg h, Option.some.injEq]
      exact ⟨fun h' => ⟨h', h' ▸ h⟩, And.left⟩

namespace UserData

/-- The shopper, by the properties of the call and the account. -/
def ofProperties (account : Option Account) (properties : Bag) : UserData where
  customerId :=
    (properties.text? Property.customerId).or
      (account.bind fun a => (nonEmpty a.externalKey).or (some a.id))
  email := properties.textOr Property.email (account.bind Account.email)
  firstName := properties.textOr Property.firstName (account.bind Account.firstName)
  lastName := properties.textOr Property.lastName (account.bind Account.lastName)
  ip := properties.text? Property.ip
  locale := properties.textOr Property.customerLocale (account.bind Account.locale)

end UserData

namespace PaymentInfo

/-- The circumstances of a payment, by the properties of the call, the account and the token of the
payment method. -/
def ofProperties (account : Option Account) (token : Option String) (properties : Bag) :
    Outcome PaymentInfo := do
  let captureDelayHours ← properties.int? Property.captureDelayHours
  let installments ← properties.int? Property.installments
  let secureThreshold ← properties.int? Property.secureThreshold
  pure {
    country := properties.textOr Property.country (account.bind Account.country)
    recurringDetailId := properties.textOr Property.recurringDetailId token
    recurringType := properties.text? Property.recurringType
    captureDelayHours
    installments
    continuousAuthentication :=
      (properties.text? Property.continuousAuthentication).map Value.affirmative
    issuerCountry := properties.text? Property.issuerCountry
    acquirer := properties.text? Property.acquirer
    acquirerMerchantId := properties.text? Property.acquirerMerchantId
    issuerAnswer := properties.text? Property.issuerAnswer
    merchantData := properties.text? Property.merchantData
    returnUrl := properties.text? Property.returnUrl
    userAgent := properties.text? Property.userAgent
    acceptHeader := properties.text? Property.acceptHeader
    secureThreshold
    skinCode := properties.text? Property.skin
    shipBeforeDate := properties.text? Property.shipBeforeDate
    sessionValidity := properties.text? Property.sessionValidity
    brandCode := properties.text? Property.brandCode
    allowedMethods := properties.text? Property.allowedMethods
    blockedMethods := properties.text? Property.blockedMethods }

end PaymentInfo

namespace PaymentMethod

/-- The properties that a stored payment method brings along, its token among them. -/
def properties (method : PaymentMethod) : Bag :=
  match nonEmpty method.token with
  | some token => method.additionalData.putNew Property.recurringDetailId (.text token)
  | none => method.additionalData

end PaymentMethod

/-- The part of a name behind the common beginning of split-settlement names. -/
def splitSettlementName? (key : String) : Option String :=
  let mark := Property.splitSettlement.toList
  if mark.isPrefixOf key.toList then some (String.ofList (key.toList.drop mark.length)) else none

/-- The properties that split a settlement, as texts under their short names; `none` when there are
none. -/
def SplitSettlement.ofProperties (properties : Bag) : Option SplitSettlement :=
  let entries := properties.filterMap fun entry => do
    let name ← splitSettlementName? entry.1
    let s ← entry.2.toText?
    some (name, Value.text s)
  if entries.isEmpty then none else some entries

end CardPayments
