import CardPayments.Bag
import CardPayments.Property

/-!
# Gateway settings

Merchant accounts and skins are configured per country, with a default for the others. Country codes
are looked up in upper case. A merchant account among the properties of a call goes before both.
-/

namespace CardPayments

/-- The settings of the gateway. -/
structure GatewaySettings where
  /-- The provider to use where none is named. -/
  defaultProvider : String := "sandbox"
  /-- The merchant account of countries without one of their own. -/
  merchantAccount : String := "DefaultMerchantAccount"
  /-- The merchant accounts of countries. -/
  merchantAccounts : List (String × String) := []
  /-- The address of the hosted page. -/
  pageTarget : String := "https://test.adyen.com/hpp/pay.shtml"
  /-- The skins of countries. -/
  skins : List (String × String) := []
  /-- The skin of countries without one of their own. -/
  defaultSkin : Option String := none
  /-- How many minutes a hosted page stays valid. -/
  sessionMinutes : Int := 15
  deriving DecidableEq, Repr

namespace GatewaySettings

/-- The entry for a country, if there is one that is not empty. -/
def entryFor (entries : List (String × String)) (country : Option String) : Option String :=
  match country with
  | some code =>
    if code = "" then none
    else
      match entries.lookup (Text.toUpper code) with
      | some entry => if entry = "" then none else some entry
      | none => none
  | none => none

/-- The merchant account for a call. -/
def merchantAccountFor (s : GatewaySettings) (country : Option String) (properties : Bag) :
    String :=
  match properties.text? Property.merchantAccount with
  | some account =>
    if account = "" then (entryFor s.merchantAccounts country).getD s.merchantAccount else account
  | none => (entryFor s.merchantAccounts country).getD s.merchantAccount

/-- The skin for a country. -/
def skinFor (s : GatewaySettings) (country : Option String) : Option String :=
  (entryFor s.skins country).or s.defaultSkin

end GatewaySettings

end CardPayments
