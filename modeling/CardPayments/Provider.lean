import CardPayments.Text.Case

/-!
# Providers

The gateway and the hosted page are chosen by the name of a provider, in any case.
-/

namespace CardPayments

/-- A provider of a gateway and a hosted page. -/
inductive Provider where
  /-- The sandbox. -/
  | sandbox
  deriving DecidableEq, Repr

namespace Provider

/-- The name of a provider. -/
def name : Provider → String
  | .sandbox => "sandbox"

/-- The provider of a name, or of the default name when none is given; the name in lower case when
there is no such provider. -/
def resolve (given : Option String) (default : String) : Except String Provider :=
  let name := Text.toLower (if given.getD "" = "" then default else given.getD "")
  if name = "sandbox" ∨ name = "test" then .ok .sandbox else .error name

/-- The message about a name that no provider has. -/
def unsupportedText (name : String) : String := "Unsupported gateway provider: " ++ name

end Provider

end CardPayments
