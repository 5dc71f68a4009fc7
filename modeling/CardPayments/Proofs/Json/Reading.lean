import CardPayments.Proofs.Bag
import CardPayments.Proofs.Json.Scanning

/-!
# Reading documents

The reader takes the lexemes of a document from where it waits for a value to where it hands that
value on, whatever is unfinished around it. So a text that writes a document is read as the value of
the document, and is refused if the document has none.
-/

namespace CardPayments.Json

/-! ## Unfinished tables -/

namespace Entries

/-- The entries of a table whose keys are texts. -/
def ofBag (bag : Bag) : Entries := bag.map fun entry => (entry.1.toList.map .char, entry.2)

/-- Texts are told apart by their characters. -/
theorem key_beq (a b : String) :
    ((a.toList.map Mark.char : Quoted) == b.toList.map Mark.char) = (a == b) := by
  rw [Bool.eq_iff_iff, beq_iff_eq, beq_iff_eq]
  constructor
  · intro h
    have hinj : Function.Injective Mark.char := fun _ _ h => Mark.char.inj h
    exact String.toList_inj.1 (List.map_injective_iff.2 hinj h)
  · rintro rfl
    rfl

/-- A text is put among entries as it is put into a bag. -/
theorem put_ofBag (bag : Bag) (key : String) (value : Value) :
    (ofBag bag).put (key.toList.map .char) value = ofBag (bag.put key value) := by
  have hany : (ofBag bag).any (·.1 == key.toList.map Mark.char) = bag.has key := by
    rw [Bool.eq_iff_iff, Bag.has_iff, List.any_eq_true]
    simp only [ofBag, List.mem_map]
    constructor
    · rintro ⟨_, ⟨entry, hentry, rfl⟩, hkey⟩
      rw [key_beq, beq_iff_eq] at hkey
      exact ⟨entry, hentry, hkey⟩
    · rintro ⟨entry, hentry, hkey⟩
      exact ⟨_, ⟨entry, hentry, rfl⟩, by rw [key_beq, beq_iff_eq]; exact hkey⟩
  unfold put Bag.put
  rw [hany]
  by_cases hkey : bag.has key = true
  · rw [if_pos hkey, if_pos hkey]
    simp only [ofBag, List.map_map]
    refine List.map_congr_left fun entry _ => ?_
    simp only [Function.comp_apply, key_beq]
    split <;> rfl
  · rw [if_neg hkey, if_neg hkey]
    simp [ofBag]

/-- Such a table is finished as it is. -/
theorem table_ofBag (bag : Bag) : (ofBag bag).table = .table bag := by
  simp [table, ofBag, Function.comp_def, Quoted.shown_map_char]

end Entries

/-! ## Taking lexemes -/

namespace Reader

/-- Takes a lexeme, if it has a token that fits. -/
def take? (r : Reader) (lexeme : Lexeme) : Option Reader :=
  lexeme.token?.bind fun token => (step .strict r token).toOption

/-- Takes lexemes one after another. -/
def takeAll? (r : Reader) (lexemes : List Lexeme) : Option Reader := lexemes.foldlM take? r

/-- Hands a finished value on, if there is one. -/
def handOn? (stack : List Frame) (value : Option Value) : Option Reader :=
  value.bind fun v => (deliver v stack).toOption

variable {stack : List Frame}

theorem takeAll?_append (r : Reader) (lexemes more : List Lexeme) :
    r.takeAll? (lexemes ++ more) = (r.takeAll? lexemes).bind (·.takeAll? more) :=
  List.foldlM_append

theorem takeAll?_cons (r : Reader) (lexeme : Lexeme) (more : List Lexeme) :
    r.takeAll? (lexeme :: more) = (r.take? lexeme).bind (·.takeAll? more) := rfl

theorem takeAll?_singleton (r : Reader) (lexeme : Lexeme) :
    r.takeAll? [lexeme] = r.take? lexeme := by
  rw [takeAll?_cons]
  cases r.take? lexeme <;> rfl

/-- The first item of a list and the first key of a table are refused where they nest too deep. -/
theorem admitted_eq {α : Type} (opened : Nat) (value : Option α) :
    Document.admitted opened value =
      if Dialect.strict.admitsFilling opened then value else none := by
  by_cases h : opened ≤ 200 <;>
    simp [Document.admitted, Dialect.admitsFilling, Dialect.strict, Document.deepest, h]

/-- A document begins with no mark that ends a list. -/
theorem takeAll?_firstItem (document : Document) :
    takeAll? ⟨stack, .firstItem⟩ document.lexemes =
      Document.admitted stack.length (takeAll? ⟨stack, .value⟩ document.lexemes) := by
  have hstep : ∀ {lexeme : Lexeme} {more : List Lexeme}, lexeme.token? ≠ some .closeList →
      takeAll? ⟨stack, .firstItem⟩ (lexeme :: more) =
        Document.admitted stack.length (takeAll? ⟨stack, .value⟩ (lexeme :: more)) := by
    intro lexeme more hclose
    rw [takeAll?_cons, takeAll?_cons, take?, take?, admitted_eq]
    cases htoken : lexeme.token? with
    | none => simp
    | some token =>
      cases token with
      | closeList => exact absurd htoken hclose
      | openTable | closeTable | openList | colon | comma | quoted | scalar =>
        simp only [step, Option.bind_some]
        split <;> rfl
  rcases document with cs | strokes | (- | ⟨item, items⟩) | (- | ⟨⟨key, value⟩, entries⟩)
  all_goals exact hstep (by simp [Lexeme.token?])

/-- A key and its colon are taken where a key may stand. -/
theorem takeAll?_key (bag : Bag) (key : List Stroke) (more : List Lexeme) :
    takeAll? ⟨.table (.ofBag bag) :: stack, .key⟩ (.quoted key :: .colon :: more) =
      (Stroke.read? key).bind fun name =>
        takeAll? ⟨.entry (.ofBag bag) (name.map .char) :: stack, .value⟩ more := by
  rw [takeAll?_cons, take?, Lexeme.token?]
  cases Stroke.read? key <;> rfl

/-- So they are in a table that has just begun, unless it nests too deep. -/
theorem takeAll?_firstKey (key : List Stroke) (more : List Lexeme) :
    takeAll? ⟨.table [] :: stack, .firstKey⟩ (.quoted key :: .colon :: more) =
      Document.admitted (stack.length + 1)
        (takeAll? ⟨.table [] :: stack, .key⟩ (.quoted key :: .colon :: more)) := by
  rw [takeAll?_cons, takeAll?_cons, take?, take?, admitted_eq, Lexeme.token?]
  cases Stroke.read? key with
  | none => simp
  | some name =>
    simp only [Option.map_some, Option.bind_some, step, List.length_cons]
    split <;> rfl

/-- A value behind a key is put under the key. -/
theorem deliver_entry (bag : Bag) (name : List Char) (v : Value) :
    deliver v (.entry (.ofBag bag) (name.map .char) :: stack) =
      .ok ⟨.table (.ofBag (bag.put (String.ofList name) v)) :: stack, .separator⟩ := by
  have hput := Entries.put_ofBag bag (String.ofList name) v
  rw [String.toList_ofList] at hput
  rw [deliver, hput]

end Reader

/-! ## Documents -/

namespace Document

open Reader

mutual

/-- Where a value is awaited, the lexemes of a document lead to where its value is handed on. -/
theorem takeAll?_lexemes (stack : List Frame) : ∀ document : Document,
    takeAll? ⟨stack, .value⟩ document.lexemes = handOn? stack (document.value? stack.length)
  | .word cs => by
    rw [lexemes, takeAll?_singleton, take?, Lexeme.token?, value?]
    cases readWord .strict cs <;> rfl
  | .quoted strokes => by
    rw [lexemes, takeAll?_singleton, take?, Lexeme.token?, value?]
    cases Stroke.read? strokes with
    | none => rfl
    | some cs => simp only [Option.map_some, Option.bind_some, step, begin, Quoted.value_map_char,
        handOn?]
  | .list [] => by
    rw [lexemes, takeAll?_cons]
    exact takeAll?_singleton ⟨.list [] :: stack, .firstItem⟩ .closeList
  | .list (item :: items) => by
    have hitem := takeAll?_lexemes (.list [] :: stack) item
    rw [lexemes, takeAll?_cons]
    change takeAll? ⟨.list [] :: stack, .firstItem⟩ _ = _
    rw [takeAll?_append, takeAll?_firstItem, hitem, value?, List.length_cons]
    unfold admitted
    split
    · cases item.value? (stack.length + 1) with
      | none => rfl
      | some v =>
        refine (takeAll?_moreItems stack [v] items).trans ?_
        cases itemValues? (stack.length + 1) items <;> rfl
    · rfl
  | .table [] => by
    rw [lexemes, takeAll?_cons]
    exact takeAll?_singleton ⟨.table [] :: stack, .firstKey⟩ .closeTable
  | .table ((key, value) :: entries) => by
    rw [lexemes, takeAll?_cons]
    change takeAll? ⟨.table [] :: stack, .firstKey⟩ _ = _
    rw [takeAll?_firstKey, value?]
    unfold admitted
    split
    · refine (takeAll?_key [] key _).trans ?_
      cases Stroke.read? key with
      | none => rfl
      | some name =>
        have hvalue := takeAll?_lexemes (.entry (.ofBag []) (name.map .char) :: stack) value
        rw [Option.bind_some, takeAll?_append, hvalue, List.length_cons]
        cases value.value? (stack.length + 1) with
        | none => rfl
        | some v =>
          rw [handOn?, Option.bind_some, deliver_entry]
          refine (takeAll?_moreEntries stack _ entries).trans ?_
          cases entryValues? (stack.length + 1) entries <;> rfl
    · rfl

/-- So do the lexemes behind an item, with the value of the whole list. -/
theorem takeAll?_moreItems (stack : List Frame) : ∀ (read : List Value) (items : List Document),
    takeAll? ⟨.list read :: stack, .separator⟩ (moreItems items) =
      handOn? stack ((itemValues? (stack.length + 1) items).map fun vs =>
        .list (read.reverse ++ vs))
  | read, [] => by
    rw [moreItems, takeAll?_singleton, itemValues?, Option.map_some, List.append_nil]
    rfl
  | read, item :: items => by
    have hitem := takeAll?_lexemes (.list read :: stack) item
    rw [moreItems, takeAll?_cons]
    change takeAll? ⟨.list read :: stack, .value⟩ _ = _
    rw [takeAll?_append, hitem, itemValues?, List.length_cons]
    cases item.value? (stack.length + 1) with
    | none => rfl
    | some v =>
      refine (takeAll?_moreItems stack (v :: read) items).trans ?_
      cases itemValues? (stack.length + 1) items <;> simp

/-- So do the lexemes behind an entry, with the whole table. -/
theorem takeAll?_moreEntries (stack : List Frame) :
    ∀ (bag : Bag) (entries : List (List Stroke × Document)),
    takeAll? ⟨.table (.ofBag bag) :: stack, .separator⟩ (moreEntries entries) =
      handOn? stack ((entryValues? (stack.length + 1) entries).map fun more =>
        .table (Bag.onto more bag))
  | bag, [] => by
    rw [moreEntries, takeAll?_singleton, entryValues?, Option.map_some]
    change (deliver (Entries.ofBag bag).table stack).toOption = _
    rw [Entries.table_ofBag]
    rfl
  | bag, (key, value) :: entries => by
    rw [moreEntries, takeAll?_cons]
    change takeAll? ⟨.table (.ofBag bag) :: stack, .key⟩ _ = _
    rw [takeAll?_key, entryValues?]
    cases Stroke.read? key with
    | none => rfl
    | some name =>
      have hvalue := takeAll?_lexemes (.entry (.ofBag bag) (name.map .char) :: stack) value
      rw [Option.bind_some, takeAll?_append, hvalue, List.length_cons]
      cases value.value? (stack.length + 1) with
      | none => rfl
      | some v =>
        rw [handOn?, Option.bind_some, deliver_entry]
        refine (takeAll?_moreEntries stack _ entries).trans ?_
        cases entryValues? (stack.length + 1) entries <;> rfl

end

/-! ## Texts -/

/-- Tokens that are all of their lexemes are taken with them; other tokens stand for nothing. -/
theorem toOption_ofTokens (lexemes : List Lexeme) :
    (ofTokens .strict (Lexeme.tokens lexemes).1 (Lexeme.tokens lexemes).2).toOption =
      (takeAll? ⟨[], .value⟩ lexemes).bind fun r => r.finish.toOption := by
  have hbind : ∀ {α β : Type} (x : Except ReadFault α) (f : α → Except ReadFault β),
      (x >>= f).toOption = x.toOption.bind fun a => (f a).toOption := by
    intro α β x f
    cases x <;> rfl
  unfold ofTokens
  rw [hbind]
  generalize (⟨[], .value⟩ : Reader) = r
  induction lexemes generalizing r with
  | nil => rfl
  | cons lexeme rest ih =>
    rw [takeAll?_cons, take?, Lexeme.tokens]
    cases lexeme.token? with
    | none => cases r.want <;> rfl
    | some token =>
      simp only [List.foldlM_cons, hbind, Option.bind_some, Option.bind_assoc]
      exact congrArg _ (funext ih)

/-- A text that writes a document is read as the value of the document. -/
theorem read_of_writes {document : Document} {s : String} (h : document.Writes s) :
    (read .strict s).toOption = document.value? 0 := by
  have htokens := tokens_of_writes h
  have hread := toOption_ofTokens document.lexemes
  rw [takeAll?_lexemes [] document, List.length_nil] at hread
  rw [read, htokens]
  refine hread.trans ?_
  cases document.value? 0 <;> rfl

end Document

end CardPayments.Json
