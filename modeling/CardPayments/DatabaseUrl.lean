import CardPayments.Text.Letter
import CardPayments.Text.Numeral
import CardPayments.Text.Percent

/-!
# Addresses of databases

An address names a database system, perhaps with a driver, and then user, password, host, port,
database and options. An address without a driver gets the asynchronous driver of its system; one
with a driver stays as it is.
-/

namespace CardPayments

/-- Why an address cannot be used. -/
inductive DatabaseUrlFault where
  /-- It does not begin with the name of a system. -/
  | malformed
  /-- What follows the colon for a port is no whole number. -/
  | port (e : Text.NumeralFault)
  /-- No driver is known for the system. -/
  | unsupportedSystem (system : String)
  deriving DecidableEq, Repr

/-- The message of a fault. -/
def DatabaseUrlFault.message : DatabaseUrlFault → String
  | .malformed => "Could not parse the address of the database"
  | .port e => e.message
  | .unsupportedSystem system =>
    "不支持的数据库驱动: " ++ system ++ ". 请使用 async 驱动或更新 DATABASE__URL"

/-- An address, taken apart. -/
structure DatabaseUrl where
  /-- The system, perhaps with a driver behind a plus sign. -/
  system : String
  /-- The user. -/
  user : Option String
  /-- The password. -/
  password : Option String
  /-- The host. -/
  host : Option String
  /-- The port. -/
  port : Option Int
  /-- The database. -/
  database : Option String
  /-- The options, in the order in which they are written. -/
  options : List (String × String)
  deriving DecidableEq, Repr

namespace DatabaseUrl

/-! ## Reading -/

/-- Splits a text at the last character that satisfies the predicate. -/
def splitLast? (p : Char → Bool) (cs : List Char) : Option (List Char × List Char) :=
  match cs.reverse.dropWhile fun c => !p c with
  | [] => none
  | _ :: before => some (before.reverse, (cs.reverse.takeWhile fun c => !p c).reverse)

/-- Reads the user and the password in front of an at sign, if there is one. A password may hold
anything but at signs, a user anything but colons and slashes. -/
def readUser (cs : List Char) : Option String × Option String × List Char :=
  let inUser (c : Char) : Bool := c != ':' && c != '/'
  let run := cs.takeWhile inUser
  let rest := cs.dropWhile inUser
  let withoutPassword :=
    match splitLast? (· == '@') run with
    | some (user, host) => (some (Text.ofPercent user), none, host ++ rest)
    | none => (none, none, cs)
  match rest with
  | ':' :: password =>
    match password.dropWhile (· != '@') with
    | _ :: host =>
      (some (Text.ofPercent run), some (Text.ofPercent (password.takeWhile (· != '@'))), host)
    | [] => withoutPassword
  | _ => withoutPassword

/-- Reads a host without brackets, which holds no colon. -/
def readPlainHost (cs : List Char) : Option String × List Char :=
  let inHost (c : Char) : Bool := c != '/' && c != ':' && c != '?'
  match cs.takeWhile inHost with
  | [] => (none, cs)
  | host => (some (String.ofList host), cs.dropWhile inHost)

/-- Reads the host, if there is one. A host in brackets may hold colons. -/
def readHost (cs : List Char) : Option String × List Char :=
  let inBrackets (c : Char) : Bool := c != '/' && c != '?'
  match cs with
  | '[' :: rest =>
    match splitLast? (· == ']') (rest.takeWhile inBrackets) with
    | some (c :: host, behind) =>
      (some (String.ofList (c :: host)), behind ++ rest.dropWhile inBrackets)
    | _ => readPlainHost cs
  | _ => readPlainHost cs

/-- Reads the port, if there is a colon for one. -/
def readPort (cs : List Char) : Except DatabaseUrlFault (Option Int × List Char) :=
  let inPort (c : Char) : Bool := c != '/' && c != '?'
  match cs with
  | ':' :: rest =>
    match Text.readWhole (String.ofList (rest.takeWhile inPort)) with
    | .ok n => .ok (some n, rest.dropWhile inPort)
    | .error e => .error (.port e)
  | _ => .ok (none, cs)

/-- Reads the database, if there is one. -/
def readDatabase : List Char → Option String × List Char
  | '/' :: rest => (some (Text.ofPercent (rest.takeWhile (· != '?'))), rest.dropWhile (· != '?'))
  | cs => (none, cs)

/-- The parts between separators. -/
def splitAll (separator : Char) : (current : List Char) → List Char → List (List Char)
  | current, [] => [current.reverse]
  | current, c :: rest =>
    if c = separator then current.reverse :: splitAll separator [] rest
    else splitAll separator (c :: current) rest

/-- The text of a name or a value among the options, where a plus sign stands for a blank. -/
def optionText (cs : List Char) : String :=
  Text.ofPercent (cs.map fun c => if c = '+' then ' ' else c)

/-- Reads one option. One without a value is passed over. -/
def readOption (cs : List Char) : Option (String × String) :=
  match cs.dropWhile (· != '=') with
  | _ :: c :: value => some (optionText (cs.takeWhile (· != '=')), optionText (c :: value))
  | _ => none

/-- Reads the options, which end with the line. -/
def readOptions : List Char → List (String × String)
  | '?' :: rest => (splitAll '&' [] (rest.takeWhile (· != '\n'))).filterMap readOption
  | _ => []

/-- Reads an address. What follows the options is ignored. -/
def ofText (s : String) : Except DatabaseUrlFault DatabaseUrl := do
  let inSystem (c : Char) : Bool := Text.isWordCharacter c || c == '+'
  let system := s.toList.takeWhile inSystem
  match system, s.toList.dropWhile inSystem with
  | _ :: _, ':' :: '/' :: '/' :: rest =>
    let (user, password, rest) := readUser rest
    let (host, rest) := readHost rest
    let (port, rest) ← readPort rest
    let (database, rest) := readDatabase rest
    pure { system := String.ofList system, user, password, host, port, database
           options := readOptions rest }
  | _, _ => throw .malformed

/-! ## Writing -/

/-- The characters of a user or a password. -/
def userText (s : String) : List Char := Text.toPercent (fun c => c == ' ' || c == '+') s

/-- The characters of a database, whose parts are divided by slashes. -/
def databaseText (s : String) : List Char :=
  Text.toPercent (fun c => c == ' ' || c == '+' || c == '/') s

/-- The characters of a name or a value among the options. -/
def optionCharacters (s : String) : List Char :=
  (Text.toPercent (· == ' ') s).map fun c => if c = ' ' then '+' else c

/-- The characters of the user and the password. -/
def userCharacters (user password : Option String) : List Char :=
  match user with
  | none => []
  | some user =>
    userText user ++
      (match password with
        | some password => ':' :: userText password
        | none => []) ++ ['@']

/-- The characters of the host, in brackets if it holds a colon. -/
def hostCharacters : Option String → List Char
  | none => []
  | some host =>
    if host.toList.contains ':' then '[' :: host.toList ++ [']'] else host.toList

/-- The characters of the options, in the order of their names. -/
def optionsCharacters (options : List (String × String)) : List Char :=
  let sorted := options.mergeSort fun a b => decide (a.1 ≤ b.1)
  let written := sorted.map fun entry =>
    optionCharacters entry.1 ++ '=' :: optionCharacters entry.2
  match written with
  | [] => []
  | first :: more => '?' :: first ++ more.flatMap ('&' :: ·)

/-- An address as text. -/
def text (u : DatabaseUrl) : String :=
  String.ofList (u.system.toList ++ "://".toList ++ userCharacters u.user u.password ++
    hostCharacters u.host ++
    (match u.port with
      | some port => ':' :: (Text.ofInt port).toList
      | none => []) ++
    (match u.database with
      | some database => '/' :: databaseText database
      | none => []) ++
    optionsCharacters u.options)

/-! ## Drivers -/

/-- The system with its asynchronous driver. -/
def withDriver? (system : String) : Option String :=
  if system = "postgresql" ∨ system = "postgres" then some "postgresql+asyncpg"
  else if system = "mysql" then some "mysql+aiomysql"
  else if system = "sqlite" then some "sqlite+aiosqlite"
  else none

/-- The address with the asynchronous driver of its system, unless it has a driver. -/
def asynchronous (s : String) : Except DatabaseUrlFault String := do
  let u ← ofText s
  if u.system.toList.contains '+' then pure s
  else
    match withDriver? u.system with
    | some system => pure { u with system }.text
    | none => throw (.unsupportedSystem u.system)

end DatabaseUrl

end CardPayments
