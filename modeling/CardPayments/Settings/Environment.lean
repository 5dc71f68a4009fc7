import CardPayments.Checked
import CardPayments.Json.Reader
import CardPayments.Settings.Gateway

/-!
# Settings from the environment

Names in the environment are read in lower case. A table or an object is given as JSON, as plain
texts entry by entry under names joined by two low lines, or both; what lies within an entry of a
table may be JSON again. Explicit values, whose names may be in any case too, go before the
environment, and tables are merged entry by entry.
-/

namespace CardPayments

/-- Why settings cannot be used. -/
inductive SettingsFault where
  /-- A table or an object that is not JSON. -/
  | unreadable (field : String)
  /-- A table or an object in which too many others lie within each other. -/
  | tooDeep (container : Json.Container)
  /-- Fields that do not have the right form. -/
  | invalid (defects : List Defect)

/-- What is said of a text that nests too deep, by what it opens last. -/
def SettingsFault.tooDeepMessage (container : Json.Container) : String :=
  "maximum recursion depth exceeded while decoding a JSON " ++
    (match container with
      | .list => "array"
      | .table => "object") ++
    " from a unicode string"

namespace Environment

/-- How a field is given. -/
inductive Shape where
  /-- As a plain text. -/
  | plain
  /-- As a table. -/
  | table
  /-- As an object with these fields. -/
  | object (fields : List String)

/-- What two low lines separate. -/
def splitName : (current : List Char) → List Char → List String
  | current, [] => [String.ofList current.reverse]
  | current, '_' :: '_' :: rest => String.ofList current.reverse :: splitName [] rest
  | current, c :: rest => splitName (c :: current) rest

mutual

/-- Lays one table over another, and tables in the same place over each other. -/
def overlay (lower : Bag) : List (String × Value) → Bag
  | [] => lower
  | (key, value) :: rest => overlay (lower.put key (overlayValue (Bag.get? lower key) value)) rest

/-- Lays a value over another one. -/
def overlayValue (lower : Option Value) : Value → Value
  | .table upper =>
    match lower with
    | some (.table entries) => .table (overlay entries upper)
    | _ => .table upper
  | v => v

end

/-- Puts a value at the end of a path of names. A value in the way that is no table stays. -/
def putPath (bag : Bag) (v : Value) : List String → Bag
  | [] => bag
  | [key] => bag.put key v
  | key :: path =>
    match bag.get? key with
    | some (.table entries) => bag.put key (.table (putPath entries v path))
    | some _ => bag
    | none => bag.put key (.table (putPath [] v path))

/-- The part of a name behind a common beginning. -/
def behind? (mark name : String) : Option (List Char) :=
  if mark.toList.isPrefixOf name.toList then some (name.toList.drop mark.toList.length) else none

/-- What is given within an entry of a table: what its text stands for as JSON, or the text itself
where that is no JSON. -/
def innerValue (s : String) : Except SettingsFault Value :=
  match Json.read .lenient s with
  | .ok v => .ok v
  | .error .malformed => .ok (.text s)
  | .error (.tooDeep container) => .error (.tooDeep container)

/-- The entries that are given one by one. An entry is a text; what is given within an entry is read
by `inner`, also when a text stands in its way. -/
def entries (environment : List (String × String)) (name : String)
    (inner : String → Except SettingsFault Value) : Except SettingsFault Bag :=
  environment.foldlM (fun bag given =>
    match (behind? (name ++ "__") given.1).map (splitName []) with
    | none => pure bag
    | some [key] => pure (bag.put key (.text given.2))
    | some path => do pure (putPath bag (← inner given.2) path)) []

/-- The names of an object's entries, put right where only their case is wrong. -/
def matchNames (fields : List String) (bag : Bag) : Bag :=
  bag.foldl (fun matched entry =>
    let name := (fields.find? fun f => Text.toLower f == Text.toLower entry.1).getD entry.1
    matched.put name entry.2) []

/-- The entries of a table or an object, given as JSON, one by one, or both. JSON that is no table
leaves no room for others. -/
def compound (environment : List (String × String)) (name : String)
    (inner : String → Except SettingsFault Value) : Except SettingsFault (Option Value) :=
  match environment.lookup name with
  | none => do
    let single ← entries environment name inner
    pure (if single.isEmpty then none else some (.table single))
  | some s =>
    match Json.read .lenient s with
    | .error .malformed => .error (.unreadable name)
    | .error (.tooDeep container) => .error (.tooDeep container)
    | .ok (.table bag) => do
      let single ← entries environment name inner
      pure (some (.table (overlay bag single)))
    | .ok .null => .ok none
    | .ok v => .ok (some v)

/-- The value of a field in the environment, if it is given. -/
def value? (environment : List (String × String)) (name : String) :
    Shape → Except SettingsFault (Option Value)
  | .plain => .ok ((environment.lookup name).map .text)
  | .table => compound environment name innerValue
  | .object fields => do
    match ← compound environment name (pure ∘ .text) with
    | some (.table bag) => pure (some (.table (matchNames fields bag)))
    | v => pure v

/-- The environment with names in lower case. Of equal names the last one counts, in the place of
the first. -/
def normalized (environment : List (String × String)) : List (String × String) :=
  environment.foldl (fun known given =>
    let name := Text.toLower given.1
    if known.any (·.1 == name) then
      known.map fun entry => if entry.1 == name then (name, given.2) else entry
    else known ++ [(name, given.2)]) []

/-- The fields that the environment gives under names with a common beginning. -/
def read (environment : List (String × String)) (mark : String) :
    List (String × Shape) → Except SettingsFault Bag
  | [] => .ok []
  | (field, shape) :: rest => do
    let v ← value? environment (mark ++ Text.toLower field) shape
    let bag ← read environment mark rest
    pure (match v with
      | some v => (field, v) :: bag
      | none => bag)

/-- The values given for the fields, under the names of the fields. A field is named in any case;
where several names are those of one field, the first of them counts. -/
def named (fields : List String) (explicit : Bag) : Bag :=
  fields.filterMap fun field =>
    (explicit.find? fun entry => Text.toLower entry.1 == Text.toLower field).map (field, ·.2)

/-- The fields from the environment and the explicit values. -/
def gather (environment : List (String × String)) (mark : String) (fields : List (String × Shape))
    (explicit : Bag) : Except SettingsFault Bag := do
  let given ← read (normalized environment) mark fields
  pure (overlay given (named (fields.map Prod.fst) explicit))

end Environment

namespace GatewaySettings

/-- The fields, as they are named and given. -/
def fields : List (String × Environment.Shape) :=
  [("default_provider", .plain), ("merchant_account", .plain), ("merchant_accounts", .table),
    ("hpp_target", .plain), ("skins", .table), ("hpp_skin", .plain),
    ("session_validity_minutes", .plain)]

/-- Checks the fields. Absent ones keep their defaults. -/
def ofBag (bag : Bag) : Checked GatewaySettings :=
  let plain : GatewaySettings := {}
  let field {α : Type} (name : String) (default : α) (check : Value → Checked α) : Checked α :=
    Checked.withDefault name default check (bag.get? name)
  GatewaySettings.mk
    <$> field "default_provider" plain.defaultProvider Checked.text
    <*> field "merchant_account" plain.merchantAccount Checked.text
    <*> field "merchant_accounts" plain.merchantAccounts Checked.textTable
    <*> field "hpp_target" plain.pageTarget Checked.text
    <*> field "skins" plain.skins Checked.textTable
    <*> field "hpp_skin" plain.defaultSkin (Checked.nullable Checked.text)
    <*> field "session_validity_minutes" plain.sessionMinutes Checked.int

/-- The settings under an environment and explicit values. -/
def load (environment : List (String × String)) (explicit : Bag) :
    Except SettingsFault GatewaySettings := do
  match ofBag (← Environment.gather environment "gateway__" fields explicit) with
  | .ok s => pure s
  | .defects ds => throw (.invalid ds)

end GatewaySettings

end CardPayments
