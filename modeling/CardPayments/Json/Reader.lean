import CardPayments.Json.Token

/-!
# Reading JSON

The reader is a machine over tokens with a stack of unfinished lists and tables. Of two entries
with one key the later one stays; keys that are no Unicode are told apart by their halves. How deep
a text may nest is a matter of its dialect, and a text that nests too deep is told apart from one
that is not JSON: whichever shows first counts.
-/

namespace CardPayments.Json

/-- What holds other values. -/
inductive Container where
  /-- A list. -/
  | list
  /-- A table. -/
  | table
  deriving DecidableEq, Repr

/-- Why a text is not read. -/
inductive ReadFault where
  /-- The text is not JSON. -/
  | malformed
  /-- A list or a table is nested deeper than the dialect admits. -/
  | tooDeep (container : Container)
  deriving DecidableEq, Repr

/-- The entries of an unfinished table, in the order in which their keys first appeared. -/
abbrev Entries := List (Quoted × Value)

namespace Entries

/-- Puts a value under a key: in its place when the key is there, otherwise at the end. -/
def put (entries : Entries) (key : Quoted) (value : Value) : Entries :=
  if entries.any (·.1 == key) then
    entries.map fun entry => if entry.1 == key then (key, value) else entry
  else entries ++ [(key, value)]

/-- The finished table, in which each key is what is shown of it. -/
def table (entries : Entries) : Value := .table (entries.map fun entry => (entry.1.shown, entry.2))

end Entries

/-- A list or a table that is not finished. -/
inductive Frame where
  /-- A list with its items so far, last first. -/
  | list (items : List Value)
  /-- A table with its entries so far. -/
  | table (entries : Entries)
  /-- A table whose next entry has only its key. -/
  | entry (entries : Entries) (key : Quoted)

/-- What the reader waits for. -/
inductive Want where
  /-- A value. -/
  | value
  /-- A value, or the end of the list that has just begun. -/
  | firstItem
  /-- A key, or the end of the table that has just begun. -/
  | firstKey
  /-- A key. -/
  | key
  /-- The colon after a key. -/
  | colon
  /-- A comma or the end of the list or table. -/
  | separator
  /-- Nothing: the text stands for this value. -/
  | nothing (v : Value)

/-- The reader: the unfinished lists and tables, innermost first, and what comes next. -/
structure Reader where
  /-- The unfinished lists and tables. -/
  stack : List Frame
  /-- What comes next. -/
  want : Want

namespace Reader

/-- Hands a finished value to the innermost list or table. -/
def deliver (v : Value) : List Frame → Except ReadFault Reader
  | [] => .ok ⟨[], .nothing v⟩
  | .list items :: stack => .ok ⟨.list (v :: items) :: stack, .separator⟩
  | .entry entries key :: stack => .ok ⟨.table (entries.put key v) :: stack, .separator⟩
  | .table _ :: _ => .error .malformed

/-- Opens a list or a table. -/
def opening (d : Dialect) (stack : List Frame) : Container → Except ReadFault Reader
  | .list =>
    if d.admitsOpening stack.length then .ok ⟨.list [] :: stack, .firstItem⟩
    else .error (.tooDeep .list)
  | .table =>
    if d.admitsOpening stack.length then .ok ⟨.table [] :: stack, .firstKey⟩
    else .error (.tooDeep .table)

/-- Takes the first token of a value. -/
def begin (d : Dialect) (stack : List Frame) : Token → Except ReadFault Reader
  | .quoted q => deliver q.value stack
  | .scalar v => deliver v stack
  | .openList => opening d stack .list
  | .openTable => opening d stack .table
  | _ => .error .malformed

/-- Takes the token that ends the innermost list or table. -/
def close : Token → List Frame → Except ReadFault Reader
  | .closeList, .list items :: stack => deliver (.list items.reverse) stack
  | .closeTable, .table entries :: stack => deliver entries.table stack
  | _, _ => .error .malformed

/-- Takes a key. -/
def takeKey : Token → List Frame → Except ReadFault Reader
  | .quoted key, .table entries :: stack => .ok ⟨.entry entries key :: stack, .colon⟩
  | _, _ => .error .malformed

/-- Takes one token. A list or a table that turns out not to be empty may be nested too deep. -/
def step (d : Dialect) (r : Reader) (t : Token) : Except ReadFault Reader :=
  match r.want, t with
  | .value, t => begin d r.stack t
  | .firstItem, .closeList => close .closeList r.stack
  | .firstItem, t =>
    if d.admitsFilling r.stack.length then begin d r.stack t else .error (.tooDeep .list)
  | .firstKey, .closeTable => close .closeTable r.stack
  | .firstKey, t =>
    if d.admitsFilling r.stack.length then takeKey t r.stack else .error (.tooDeep .table)
  | .key, t => takeKey t r.stack
  | .colon, .colon => .ok ⟨r.stack, .value⟩
  | .colon, _ => .error .malformed
  | .separator, .comma =>
    match r.stack with
    | .list _ :: _ => .ok ⟨r.stack, .value⟩
    | .table _ :: _ => .ok ⟨r.stack, .key⟩
    | _ => .error .malformed
  | .separator, t => close t r.stack
  | .nothing _, _ => .error .malformed

/-- The value at the end of the tokens. -/
def finish (r : Reader) : Except ReadFault Value :=
  match r.want with
  | .nothing v => .ok v
  | _ => .error .malformed

end Reader

/-- The value that the tokens stand for. Tokens that are not all of a text stand for none. -/
def ofTokens (d : Dialect) (tokens : List Token) (complete : Bool) : Except ReadFault Value := do
  let r ← tokens.foldlM (Reader.step d) ⟨[], .value⟩
  if complete then r.finish else .error .malformed

/-- Reads a JSON text. -/
def read (d : Dialect) (s : String) : Except ReadFault Value :=
  let (tokens, complete) := tokens d s.toList
  ofTokens d tokens complete

end CardPayments.Json
