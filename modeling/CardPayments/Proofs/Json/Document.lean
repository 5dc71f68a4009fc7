import CardPayments.Bag
import CardPayments.Json.Token
import CardPayments.Text.Quoted
import Mathlib.Data.List.Forall2

/-!
# JSON documents

A document is the tree of what a JSON text writes, down to how each character of a quoted text is
written. Its text is the sequence of its lexemes with any blanks around them. A document stands for
a value unless half a pair of surrogates stands alone, a word is neither a constant nor a number
that is read, or lists and tables nest too deep. All of this is said without the reader.
-/

namespace CardPayments.Json

/-! ## Quoted texts -/

/-- One place of a quoted text, as it is written. -/
inductive Stroke where
  /-- A character that stands for itself. -/
  | plain (c : Char)
  /-- A backslash and a letter, which stand for a character. -/
  | escape (letter c : Char)
  /-- A backslash, the letter u and the four hexadecimal digits of a code. -/
  | code (n : Nat) (digits : List Char)
  deriving DecidableEq

namespace Stroke

/-- The letters that may follow a backslash, with the characters that they stand for. -/
def escapes : List (Char × Char) :=
  [('"', '"'), ('\\', '\\'), ('/', '/'), ('b', '\x08'), ('f', '\x0c'), ('n', '\n'), ('r', '\r'),
    ('t', '\t')]

/-- A hexadecimal digit in either case. -/
def IsDigit (c digit : Char) : Prop := c = digit ∨ c = digit.toUpper

instance : DecidableRel IsDigit := fun _ _ => inferInstanceAs (Decidable (_ ∨ _))

/-- What may be written: no bare quotation mark, backslash or control character, no other escape,
and just the digits of the code. -/
def IsLegal : Stroke → Prop
  | .plain c => 0x20 ≤ c.toNat ∧ c ≠ '"' ∧ c ≠ '\\'
  | .escape letter c => (letter, c) ∈ escapes
  | .code n digits => n < 0x10000 ∧ List.Forall₂ IsDigit digits (Text.hexDigits 4 n)

instance : DecidablePred IsLegal
  | .plain _ => inferInstanceAs (Decidable (_ ∧ _))
  | .escape _ _ => inferInstanceAs (Decidable (_ ∈ _))
  | .code _ _ => inferInstanceAs (Decidable (_ ∧ _))

/-- The characters of a place. -/
def text : Stroke → List Char
  | .plain c => [c]
  | .escape letter _ => ['\\', letter]
  | .code _ digits => '\\' :: 'u' :: digits

/-- The text that is written. A code from the surrogates has to be the first half of a pair, and
the next one its second half. -/
def read? : List Stroke → Option (List Char)
  | [] => some []
  | .plain c :: rest => (read? rest).map (c :: ·)
  | .escape _ c :: rest => (read? rest).map (c :: ·)
  | .code n _ :: rest =>
    if n < 0xd800 ∨ 0xe000 ≤ n then (read? rest).map (Char.ofNat n :: ·)
    else
      match rest with
      | .code m _ :: rest =>
        if n < 0xdc00 ∧ 0xdc00 ≤ m ∧ m < 0xe000 then
          (read? rest).map (Char.ofNat (0x10000 + (n - 0xd800) * 0x400 + (m - 0xdc00)) :: ·)
        else none
      | _ => none

end Stroke

/-! ## Lexemes -/

/-- What a text consists of, apart from blanks. -/
inductive Lexeme where
  /-- An opening brace. -/
  | openTable
  /-- A closing brace. -/
  | closeTable
  /-- An opening bracket. -/
  | openList
  /-- A closing bracket. -/
  | closeList
  /-- A colon. -/
  | colon
  /-- A comma. -/
  | comma
  /-- A quoted text. -/
  | quoted (strokes : List Stroke)
  /-- A number or a constant. -/
  | word (cs : List Char)

namespace Lexeme

/-- The characters of a lexeme. -/
def text : Lexeme → List Char
  | .openTable => ['\x7b']
  | .closeTable => ['\x7d']
  | .openList => ['[']
  | .closeList => [']']
  | .colon => [':']
  | .comma => [',']
  | .quoted strokes => '"' :: strokes.flatMap Stroke.text ++ ['"']
  | .word cs => cs

/-- What may be written: legal strokes, and words of letters, digits, signs and points. Every number
and every constant of JSON is such a word. -/
def IsLegal : Lexeme → Prop
  | .quoted strokes => ∀ stroke ∈ strokes, stroke.IsLegal
  | .word cs => cs ≠ [] ∧ ∀ c ∈ cs, isWord c
  | _ => True

instance : DecidablePred IsLegal
  | .quoted _ => inferInstanceAs (Decidable (∀ _ ∈ _, _))
  -- by `all`, since a quantifier over characters may be decided by trying all of Unicode
  | .word cs => decidable_of_iff (cs ≠ [] ∧ cs.all isWord) (and_congr_right' List.all_eq_true)
  | .openTable | .closeTable | .openList | .closeList | .colon | .comma =>
    inferInstanceAs (Decidable True)

end Lexeme

/-- Characters that are lexemes with blanks before, between and behind them. -/
inductive Spaced : List Lexeme → List Char → Prop where
  /-- Blanks alone. -/
  | nil {blanks : List Char} (h : ∀ c ∈ blanks, isSpace c) : Spaced [] blanks
  /-- A lexeme behind blanks. -/
  | cons {blanks : List Char} (h : ∀ c ∈ blanks, isSpace c) (lexeme : Lexeme)
    {lexemes : List Lexeme} {cs : List Char} (rest : Spaced lexemes cs) :
    Spaced (lexeme :: lexemes) (blanks ++ (lexeme.text ++ cs))

/-! ## Documents -/

/-- The tree of what a JSON text writes. -/
inductive Document where
  /-- A number or a constant. -/
  | word (cs : List Char)
  /-- A quoted text. -/
  | quoted (strokes : List Stroke)
  /-- A list. -/
  | list (items : List Document)
  /-- A table. -/
  | table (entries : List (List Stroke × Document))

namespace Document

mutual

/-- The lexemes of a document. -/
def lexemes : Document → List Lexeme
  | .word cs => [.word cs]
  | .quoted strokes => [.quoted strokes]
  | .list [] => [.openList, .closeList]
  | .list (item :: items) => .openList :: (item.lexemes ++ moreItems items)
  | .table [] => [.openTable, .closeTable]
  | .table ((key, value) :: entries) =>
    .openTable :: .quoted key :: .colon :: (value.lexemes ++ moreEntries entries)

/-- The lexemes behind an item of a list: the other items, and the end. -/
def moreItems : List Document → List Lexeme
  | [] => [.closeList]
  | item :: items => .comma :: (item.lexemes ++ moreItems items)

/-- The lexemes behind an entry of a table: the other entries, and the end. -/
def moreEntries : List (List Stroke × Document) → List Lexeme
  | [] => [.closeTable]
  | (key, value) :: entries =>
    .comma :: .quoted key :: .colon :: (value.lexemes ++ moreEntries entries)

end

/-- Whether a text writes the document. -/
def Writes (document : Document) (s : String) : Prop :=
  (∀ lexeme ∈ document.lexemes, lexeme.IsLegal) ∧ Spaced document.lexemes s.toList

/-- The document written without blanks. -/
def plainText (document : Document) : String :=
  String.ofList (document.lexemes.flatMap Lexeme.text)

/-- The same blanks may stand in front of every lexeme. -/
theorem spaced_flatMap {blanks : List Char} (h : ∀ c ∈ blanks, isSpace c)
    (lexemes : List Lexeme) :
    Spaced lexemes (lexemes.flatMap fun lexeme => blanks ++ lexeme.text) := by
  induction lexemes with
  | nil => exact .nil (List.forall_mem_nil _)
  | cons lexeme lexemes ih =>
    rw [List.flatMap_cons, List.append_assoc]
    exact .cons h lexeme ih

/-- A document can be written with such blanks if its lexemes can. -/
theorem writes_spaced {document : Document} (h : ∀ lexeme ∈ document.lexemes, lexeme.IsLegal)
    {blanks : List Char} (hblanks : ∀ c ∈ blanks, isSpace c) :
    document.Writes
      (String.ofList (document.lexemes.flatMap fun lexeme => blanks ++ lexeme.text)) := by
  refine ⟨h, ?_⟩
  rw [String.toList_ofList]
  exact spaced_flatMap hblanks document.lexemes

/-- Lexemes need no blanks between them. -/
theorem writes_plainText {document : Document}
    (h : ∀ lexeme ∈ document.lexemes, lexeme.IsLegal) : document.Writes document.plainText := by
  refine ⟨h, ?_⟩
  rw [plainText, String.toList_ofList]
  exact spaced_flatMap (List.forall_mem_nil _) document.lexemes

/-- A list can be written if its items can. -/
theorem isLegal_list {items : List Document}
    (h : ∀ item ∈ items, ∀ lexeme ∈ item.lexemes, lexeme.IsLegal) :
    ∀ lexeme ∈ (list items).lexemes, lexeme.IsLegal := by
  have hmore : ∀ items : List Document, (∀ item ∈ items, ∀ lexeme ∈ item.lexemes,
      lexeme.IsLegal) → ∀ lexeme ∈ moreItems items, lexeme.IsLegal := by
    intro items h
    induction items with
    | nil => simp [moreItems, Lexeme.IsLegal]
    | cons item items ih =>
      obtain ⟨hitem, hitems⟩ := List.forall_mem_cons.1 h
      rw [moreItems, List.forall_mem_cons, List.forall_mem_append]
      exact ⟨trivial, hitem, ih hitems⟩
  cases items with
  | nil => simp [lexemes, Lexeme.IsLegal]
  | cons item items =>
    obtain ⟨hitem, hitems⟩ := List.forall_mem_cons.1 h
    rw [lexemes, List.forall_mem_cons, List.forall_mem_append]
    exact ⟨trivial, hitem, hmore items hitems⟩

/-- A table can be written if its keys and values can. -/
theorem isLegal_table {entries : List (List Stroke × Document)}
    (h : ∀ entry ∈ entries, (Lexeme.quoted entry.1).IsLegal ∧
      ∀ lexeme ∈ entry.2.lexemes, lexeme.IsLegal) :
    ∀ lexeme ∈ (table entries).lexemes, lexeme.IsLegal := by
  have hmore : ∀ entries : List (List Stroke × Document), (∀ entry ∈ entries,
      (Lexeme.quoted entry.1).IsLegal ∧ ∀ lexeme ∈ entry.2.lexemes, lexeme.IsLegal) →
      ∀ lexeme ∈ moreEntries entries, lexeme.IsLegal := by
    intro entries h
    induction entries with
    | nil => simp [moreEntries, Lexeme.IsLegal]
    | cons entry entries ih =>
      obtain ⟨⟨hkey, hvalue⟩, hentries⟩ := List.forall_mem_cons.1 h
      simp only [moreEntries, List.forall_mem_cons, List.forall_mem_append]
      exact ⟨trivial, hkey, trivial, hvalue, ih hentries⟩
  cases entries with
  | nil => simp [lexemes, Lexeme.IsLegal]
  | cons entry entries =>
    obtain ⟨⟨hkey, hvalue⟩, hentries⟩ := List.forall_mem_cons.1 h
    simp only [lexemes, List.forall_mem_cons, List.forall_mem_append]
    exact ⟨trivial, hkey, trivial, hvalue, hmore entries hentries⟩

/-- How many lists and tables may be open around a value. -/
def deepest : Nat := 200

/-- A value, if so many lists and tables may be open around it. -/
def admitted {α : Type} (opened : Nat) (value : Option α) : Option α :=
  if opened ≤ deepest then value else none

mutual

/-- The value that a document stands for when so many lists and tables are open around it. -/
def value? (opened : Nat) : Document → Option Value
  | .word cs => readWord .strict cs
  | .quoted strokes => (Stroke.read? strokes).map fun cs => .text (String.ofList cs)
  | .list [] => some (.list [])
  | .list (item :: items) => admitted (opened + 1) do
    let v ← item.value? (opened + 1)
    let vs ← itemValues? (opened + 1) items
    some (.list (v :: vs))
  | .table [] => some (.table [])
  | .table ((key, value) :: entries) => admitted (opened + 1) do
    let name ← Stroke.read? key
    let v ← value.value? (opened + 1)
    let bag ← entryValues? (opened + 1) entries
    some (.table (Bag.onto ((String.ofList name, v) :: bag) []))

/-- The values of items. -/
def itemValues? (opened : Nat) : List Document → Option (List Value)
  | [] => some []
  | item :: items => do
    let v ← item.value? opened
    let vs ← itemValues? opened items
    some (v :: vs)

/-- The names and values of entries. -/
def entryValues? (opened : Nat) : List (List Stroke × Document) → Option Bag
  | [] => some []
  | (key, value) :: entries => do
    let name ← Stroke.read? key
    let v ← value.value? opened
    let bag ← entryValues? opened entries
    some ((String.ofList name, v) :: bag)

end

/-! ## What lists and tables stand for -/

/-- Items have values if each has one. -/
theorem itemValues?_eq_some_iff {opened : Nat} {items : List Document} {vs : List Value} :
    itemValues? opened items = some vs ↔
      List.Forall₂ (fun item v => item.value? opened = some v) items vs := by
  induction items generalizing vs with
  | nil => simp [itemValues?, eq_comm]
  | cons item items ih =>
    simp only [itemValues?, Option.bind_eq_bind, Option.bind_eq_some_iff, Option.some.injEq,
      List.forall₂_cons_left_iff, ← ih]
    constructor
    · rintro ⟨v, hv, more, hmore, rfl⟩
      exact ⟨v, more, hv, hmore, rfl⟩
    · rintro ⟨v, more, hv, hmore, rfl⟩
      exact ⟨v, hv, more, hmore, rfl⟩

/-- Entries have names and values if each has one of both. -/
theorem entryValues?_eq_some_iff {opened : Nat} {entries : List (List Stroke × Document)}
    {bag : Bag} : entryValues? opened entries = some bag ↔
      List.Forall₂ (fun entry named => Stroke.read? entry.1 = some named.1.toList ∧
        entry.2.value? opened = some named.2) entries bag := by
  induction entries generalizing bag with
  | nil => simp [entryValues?, eq_comm]
  | cons entry entries ih =>
    obtain ⟨key, value⟩ := entry
    simp only [entryValues?, Option.bind_eq_bind, Option.bind_eq_some_iff, Option.some.injEq,
      List.forall₂_cons_left_iff, ← ih]
    constructor
    · rintro ⟨name, hname, v, hv, more, hmore, rfl⟩
      exact ⟨_, more, ⟨by simpa using hname, hv⟩, hmore, rfl⟩
    · rintro ⟨⟨name, v⟩, more, ⟨hname, hv⟩, hmore, rfl⟩
      exact ⟨_, hname, v, hv, more, hmore, by simp⟩

/-- A value is admitted where it does not lie too deep. -/
theorem admitted_eq_some_iff {α : Type} {opened : Nat} {value : Option α} {a : α} :
    admitted opened value = some a ↔ opened ≤ deepest ∧ value = some a := by
  unfold admitted
  split <;> simp [*]

/-- A list stands for the list of the values of its items. -/
theorem value?_list_eq_some_iff {opened : Nat} {items : List Document} {v : Value} :
    (list items).value? opened = some v ↔ (items ≠ [] → opened + 1 ≤ deepest) ∧
      ∃ vs, itemValues? (opened + 1) items = some vs ∧ v = .list vs := by
  cases items with
  | nil => simp [value?, itemValues?, eq_comm]
  | cons item items =>
    have hvalue : (list (item :: items)).value? opened =
        admitted (opened + 1) ((itemValues? (opened + 1) (item :: items)).map .list) := by
      rw [value?, itemValues?]
      cases item.value? (opened + 1) <;> cases itemValues? (opened + 1) items <;> rfl
    rw [hvalue, admitted_eq_some_iff, Option.map_eq_some_iff]
    constructor
    · rintro ⟨hdeep, vs, hvs, rfl⟩
      exact ⟨fun _ => hdeep, vs, hvs, rfl⟩
    · rintro ⟨hdeep, vs, hvs, rfl⟩
      exact ⟨hdeep (List.cons_ne_nil _ _), vs, hvs, rfl⟩

/-- A table stands for the table of the values of its entries, of which the last under a name
counts. -/
theorem value?_table_eq_some_iff {opened : Nat} {entries : List (List Stroke × Document)}
    {v : Value} : (table entries).value? opened = some v ↔ (entries ≠ [] → opened + 1 ≤ deepest) ∧
      ∃ bag, entryValues? (opened + 1) entries = some bag ∧ v = .table (Bag.onto bag []) := by
  cases entries with
  | nil => simp [value?, entryValues?, Bag.onto, eq_comm]
  | cons entry entries =>
    obtain ⟨key, value⟩ := entry
    have hvalue : (table ((key, value) :: entries)).value? opened =
        admitted (opened + 1) ((entryValues? (opened + 1) ((key, value) :: entries)).map
          fun bag => .table (Bag.onto bag [])) := by
      rw [value?, entryValues?]
      cases Stroke.read? key <;> cases value.value? (opened + 1) <;>
        cases entryValues? (opened + 1) entries <;> rfl
    rw [hvalue, admitted_eq_some_iff, Option.map_eq_some_iff]
    constructor
    · rintro ⟨hdeep, bag, hbag, rfl⟩
      exact ⟨fun _ => hdeep, bag, hbag, rfl⟩
    · rintro ⟨hdeep, bag, hbag, rfl⟩
      exact ⟨hdeep (List.cons_ne_nil _ _), bag, hbag, rfl⟩

end Document

end CardPayments.Json
