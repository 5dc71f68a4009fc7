import CardPayments.Settings.Environment

/-!
# Application settings

Name and version, the mode of running, how much is logged and where records are kept.
-/

namespace CardPayments

/-- Where records are kept. -/
structure DatabaseSettings where
  /-- The address of the database. -/
  url : String := "sqlite+aiosqlite:///./gateway_plugin.db"
  /-- Whether statements are shown. -/
  echo : Bool := false
  /-- Whether connections are tried before use. -/
  probe : Bool := true
  deriving DecidableEq, Repr

/-- The settings of the application. -/
structure ApplicationSettings where
  /-- The name. -/
  projectName : String := "Adyen Payment Plugin"
  /-- The version. -/
  version : String := "1.0.0"
  /-- Whether it runs for debugging. -/
  debug : Bool := true
  /-- Where it runs. -/
  environment : String := "development"
  /-- How much is logged, in upper case; empty for the default. -/
  logLevel : String := ""
  /-- Where records are kept. -/
  database : DatabaseSettings := {}
  deriving DecidableEq, Repr

namespace DatabaseSettings

/-- The names of the fields. -/
def names : List String := ["url", "echo", "pool_pre_ping"]

/-- Checks the fields. Absent ones keep their defaults. -/
def ofBag (bag : Bag) : Checked DatabaseSettings :=
  let plain : DatabaseSettings := {}
  let field {α : Type} (name : String) (default : α) (check : Value → Checked α) : Checked α :=
    Checked.withDefault name default check (bag.get? name)
  DatabaseSettings.mk
    <$> field "url" plain.url Checked.text
    <*> field "echo" plain.echo Checked.bool
    <*> field "pool_pre_ping" plain.probe Checked.bool

end DatabaseSettings

namespace ApplicationSettings

/-- The fields, as they are named and given. -/
def fields : List (String × Environment.Shape) :=
  [("PROJECT_NAME", .plain), ("VERSION", .plain), ("DEBUG", .plain), ("ENVIRONMENT", .plain),
    ("LOG_LEVEL", .plain), ("database", .object DatabaseSettings.names)]

/-- The text of any value, without blanks around it and in upper case. -/
def readLogLevel (v : Value) : Checked String :=
  .ok (match v.toText? with
    | some s => Text.toUpper (Text.trim s)
    | none => "")

/-- Checks the fields. Absent ones keep their defaults. -/
def ofBag (bag : Bag) : Checked ApplicationSettings :=
  let plain : ApplicationSettings := {}
  let field {α : Type} (name : String) (default : α) (check : Value → Checked α) : Checked α :=
    Checked.withDefault name default check (bag.get? name)
  ApplicationSettings.mk
    <$> field "PROJECT_NAME" plain.projectName Checked.text
    <*> field "VERSION" plain.version Checked.text
    <*> field "DEBUG" plain.debug Checked.bool
    <*> field "ENVIRONMENT" plain.environment Checked.text
    <*> field "LOG_LEVEL" plain.logLevel readLogLevel
    <*> field "database" plain.database (Checked.object DatabaseSettings.ofBag)

/-- The settings under an environment and explicit values. -/
def load (environment : List (String × String)) (explicit : Bag) :
    Except SettingsFault ApplicationSettings := do
  match ofBag (← Environment.gather environment "" fields explicit) with
  | .ok s => pure s
  | .defects ds => throw (.invalid ds)

end ApplicationSettings

end CardPayments
