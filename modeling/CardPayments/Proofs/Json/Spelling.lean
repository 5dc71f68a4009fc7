import CardPayments.Proofs.Bag
import CardPayments.Proofs.Json.Numeral
import CardPayments.Proofs.Json.Scanning
import CardPayments.Proofs.Text.Case

/-!
# Spelling values

A value can be spelled as a document in many ways: every character of a text may stand for itself,
behind a backslash or as a code, where characters beyond the basic plane take a pair of codes. A
document that spells a value stands for it, unless its numbers are too long or it nests too deep.
Constants, whole numbers and texts can all be written, and so can lists and tables of what can be.
-/

namespace CardPayments.Json

/-! ## Texts -/

namespace Stroke

/-- The first code of the pair for a character beyond the basic plane. -/
def firstHalf (c : Char) : Nat := 0xd800 + (c.toNat - 0x10000) / 0x400

/-- The second code of the pair. -/
def secondHalf (c : Char) : Nat := 0xdc00 + (c.toNat - 0x10000) % 0x400

/-- Strokes that spell characters. -/
inductive Spells : List Stroke → List Char → Prop where
  /-- No strokes for no characters. -/
  | nil : Spells [] []
  /-- A character that stands for itself. -/
  | plain (c : Char) {strokes : List Stroke} {cs : List Char} (rest : Spells strokes cs) :
    Spells (.plain c :: strokes) (c :: cs)
  /-- A character behind a backslash, as its letter. -/
  | escape (letter c : Char) {strokes : List Stroke} {cs : List Char} (rest : Spells strokes cs) :
    Spells (.escape letter c :: strokes) (c :: cs)
  /-- A character of the basic plane as its code. -/
  | code {c : Char} (h : c.toNat < 0x10000) (digits : List Char) {strokes : List Stroke}
    {cs : List Char} (rest : Spells strokes cs) :
    Spells (.code c.toNat digits :: strokes) (c :: cs)
  /-- A character beyond it as a pair of codes. -/
  | pair {c : Char} (h : 0x10000 ≤ c.toNat) (digits more : List Char) {strokes : List Stroke}
    {cs : List Char} (rest : Spells strokes cs) :
    Spells (.code (firstHalf c) digits :: .code (secondHalf c) more :: strokes) (c :: cs)

/-- A character is no surrogate. -/
theorem toNat_cases (c : Char) : c.toNat < 0xd800 ∨ 0xe000 ≤ c.toNat ∧ c.toNat < 0x110000 := by
  have hc : c.toNat.isValidChar := c.valid
  unfold Nat.isValidChar at hc
  omega

/-- The two codes of a pair give the character back. -/
theorem ofNat_halves {c : Char} (h : 0x10000 ≤ c.toNat) :
    Char.ofNat (0x10000 + (firstHalf c - 0xd800) * 0x400 + (secondHalf c - 0xdc00)) = c := by
  have hcode : 0x10000 + (firstHalf c - 0xd800) * 0x400 + (secondHalf c - 0xdc00) = c.toNat := by
    unfold firstHalf secondHalf
    omega
  rw [hcode, Char.ofNat_toNat]

/-- Strokes that spell characters are read as them. -/
theorem read?_of_spells {strokes : List Stroke} {cs : List Char} (h : Spells strokes cs) :
    read? strokes = some cs := by
  induction h with
  | nil => rfl
  | plain c _ ih => rw [read?, ih, Option.map_some]
  | escape letter c _ ih => rw [read?, ih, Option.map_some]
  | @code c h digits _ _ _ ih =>
    have hvalid : c.toNat < 0xd800 ∨ 0xe000 ≤ c.toNat := (toNat_cases c).imp_right And.left
    unfold read?
    rw [if_pos hvalid, ih, Option.map_some, Char.ofNat_toNat]
  | @pair c h digits more _ _ _ ih =>
    have hlast := toNat_cases c
    have hhalf : ¬ (firstHalf c < 0xd800 ∨ 0xe000 ≤ firstHalf c) := by
      unfold firstHalf
      omega
    have hpair : firstHalf c < 0xdc00 ∧ 0xdc00 ≤ secondHalf c ∧ secondHalf c < 0xe000 := by
      unfold firstHalf secondHalf
      omega
    unfold read?
    rw [if_neg hhalf]
    dsimp only
    rw [if_pos hpair, ih, Option.map_some, ofNat_halves h]

/-- A code outside of the surrogates spells its character. -/
theorem spells_code {n : Nat} (h : n < 0xd800 ∨ 0xe000 ≤ n) (hlt : n < 0x10000)
    (digits : List Char) {strokes : List Stroke} {cs : List Char} (rest : Spells strokes cs) :
    Spells (.code n digits :: strokes) (Char.ofNat n :: cs) := by
  have hvalid : n.isValidChar := by
    unfold Nat.isValidChar
    omega
  have hn : (Char.ofNat n).toNat = n := Text.toNat_ofNat hvalid
  have hspells : Spells (.code (Char.ofNat n).toNat digits :: strokes) (Char.ofNat n :: cs) :=
    .code (by rwa [hn]) digits rest
  rwa [hn] at hspells

/-- Two halves of a pair spell the character of the pair. -/
theorem spells_pair {n m : Nat} (hn : 0xd800 ≤ n ∧ n < 0xdc00) (hm : 0xdc00 ≤ m ∧ m < 0xe000)
    (digits more : List Char) {strokes : List Stroke} {cs : List Char} (rest : Spells strokes cs) :
    Spells (.code n digits :: .code m more :: strokes)
      (Char.ofNat (0x10000 + (n - 0xd800) * 0x400 + (m - 0xdc00)) :: cs) := by
  generalize hcode : 0x10000 + (n - 0xd800) * 0x400 + (m - 0xdc00) = code
  have hvalid : code.isValidChar := by
    unfold Nat.isValidChar
    omega
  have htoNat : (Char.ofNat code).toNat = code := Text.toNat_ofNat hvalid
  have hfirst : firstHalf (Char.ofNat code) = n := by
    unfold firstHalf
    omega
  have hsecond : secondHalf (Char.ofNat code) = m := by
    unfold secondHalf
    omega
  have hspells : Spells (.code (firstHalf (Char.ofNat code)) digits ::
      .code (secondHalf (Char.ofNat code)) more :: strokes) (Char.ofNat code :: cs) :=
    .pair (by omega) digits more rest
  rwa [hfirst, hsecond] at hspells

/-- Strokes that may be written spell what they are read as. -/
theorem spells_of_read? {strokes : List Stroke} {cs : List Char}
    (h : (∀ stroke ∈ strokes, stroke.IsLegal) ∧ read? strokes = some cs) : Spells strokes cs := by
  obtain ⟨hlegal, h⟩ := h
  fun_induction read? strokes generalizing cs with
  | case1 =>
    obtain rfl := Option.some.inj h
    exact .nil
  | case2 c _ ih =>
    obtain ⟨more, hmore, rfl⟩ := Option.map_eq_some_iff.1 h
    exact .plain c (ih (List.forall_mem_cons.1 hlegal).2 hmore)
  | case3 letter c _ ih =>
    obtain ⟨more, hmore, rfl⟩ := Option.map_eq_some_iff.1 h
    exact .escape letter c (ih (List.forall_mem_cons.1 hlegal).2 hmore)
  | case4 n digits _ hn ih =>
    obtain ⟨more, hmore, rfl⟩ := Option.map_eq_some_iff.1 h
    obtain ⟨⟨hlt, -⟩, hrest⟩ := List.forall_mem_cons.1 hlegal
    exact spells_code hn hlt digits (ih hrest hmore)
  | case5 n digits hn m more _ hm ih =>
    obtain ⟨cs, hcs, rfl⟩ := Option.map_eq_some_iff.1 h
    have hrest := (List.forall_mem_cons.1 (List.forall_mem_cons.1 hlegal).2).2
    exact spells_pair (by omega) hm.2 digits more (ih hrest hcs)
  | case6 => cases h
  | case7 => cases h

/-- A stroke for a character: itself, or its code where it may not stand for itself. -/
def ofChar (c : Char) : Stroke :=
  if 0x20 ≤ c.toNat ∧ c ≠ '"' ∧ c ≠ '\\' then .plain c
  else .code c.toNat (Text.hexDigits 4 c.toNat)

/-- What may not stand for itself lies in the basic plane. -/
theorem ofChar_cases (c : Char) : (ofChar c = .plain c ∧ (Stroke.plain c).IsLegal) ∨
    (ofChar c = .code c.toNat (Text.hexDigits 4 c.toNat) ∧ c.toNat < 0x10000) := by
  unfold ofChar
  split
  · rename_i hplain
    exact Or.inl ⟨rfl, hplain⟩
  · rename_i hcode
    refine Or.inr ⟨rfl, ?_⟩
    simp only [not_and_or, not_le, not_not] at hcode
    rcases hcode with hcontrol | rfl | rfl
    · omega
    · decide
    · decide

/-- The stroke for a character may be written. -/
theorem isLegal_ofChar (c : Char) : (ofChar c).IsLegal := by
  rcases ofChar_cases c with ⟨hplain, hlegal⟩ | ⟨hcode, hlt⟩
  · rw [hplain]
    exact hlegal
  · rw [hcode]
    exact ⟨hlt, List.forall₂_same.2 fun _ _ => Or.inl rfl⟩

/-- Characters are spelled stroke by stroke. -/
theorem spells_ofChars (cs : List Char) : Spells (cs.map ofChar) cs := by
  induction cs with
  | nil => exact .nil
  | cons c cs ih =>
    rw [List.map_cons]
    rcases ofChar_cases c with ⟨hplain, -⟩ | ⟨hcode, hlt⟩
    · rw [hplain]
      exact .plain c ih
    · rw [hcode]
      exact .code hlt _ ih

end Stroke

/-! ## Values -/

/-- The constant for a truth value. -/
def truthWord (b : Bool) : String := if b then "true" else "false"

/-- Whether a value is within the limits of a reader: whole numbers that are not too long, and
lists and tables that nest no deeper than this. -/
def Fits : Nat → Value → Prop
  | _, .int n => n.natAbs < 10 ^ Text.maxNumeralLength
  | 0, .list items => items = []
  | 0, .table entries => entries = []
  | depth + 1, .list items => ∀ v ∈ items, Fits depth v
  | depth + 1, .table entries => ∀ entry ∈ entries, Fits depth entry.2
  | _, _ => True

namespace Document

mutual

/-- A document that spells a value of constants, whole numbers, texts, lists and tables. -/
inductive Spells : Document → Value → Prop where
  /-- The constant for no value. -/
  | null : Spells (.word "null".toList) .null
  /-- The constant for a truth value. -/
  | bool (b : Bool) : Spells (.word (truthWord b).toList) (.bool b)
  /-- The numeral of a whole number. -/
  | int (n : Int) : Spells (.word (Text.ofInt n).toList) (.int n)
  /-- A quoted text. -/
  | text {strokes : List Stroke} {s : String} (h : Stroke.Spells strokes s.toList) :
    Spells (.quoted strokes) (.text s)
  /-- A list, item by item. -/
  | list {items : List Document} {vs : List Value} (h : SpellsItems items vs) :
    Spells (.list items) (.list vs)
  /-- A table with every name once, entry by entry. -/
  | table {entries : List (List Stroke × Document)} {bag : Bag} (distinct : bag.Distinct)
    (h : SpellsEntries entries bag) : Spells (.table entries) (.table bag)

/-- Documents that spell values, in order. -/
inductive SpellsItems : List Document → List Value → Prop where
  /-- No documents for no values. -/
  | nil : SpellsItems [] []
  /-- A document for a value, and the rest. -/
  | cons {item : Document} {v : Value} {items : List Document} {vs : List Value}
    (first : Spells item v) (rest : SpellsItems items vs) : SpellsItems (item :: items) (v :: vs)

/-- Keys and documents that spell names and values, in order. -/
inductive SpellsEntries : List (List Stroke × Document) → Bag → Prop where
  /-- No entries for none. -/
  | nil : SpellsEntries [] []
  /-- A key and a document for a name and a value, and the rest. -/
  | cons {key : List Stroke} {name : String} {value : Document} {v : Value}
    {entries : List (List Stroke × Document)} {bag : Bag} (named : Stroke.Spells key name.toList)
    (first : Spells value v) (rest : SpellsEntries entries bag) :
    SpellsEntries ((key, value) :: entries) ((name, v) :: bag)

end

mutual

/-- A document that spells a value stands for it, within the limits. -/
theorem value?_of_spells {document : Document} {v : Value} (h : document.Spells v)
    {opened depth : Nat} (hfits : Fits depth v) (hdeep : opened + depth ≤ deepest) :
    document.value? opened = some v := by
  cases h with
  | null => rfl
  | bool b => cases b <;> rfl
  | int n =>
    have hn : n.natAbs < 10 ^ Text.maxNumeralLength := by
      cases depth <;> exact hfits
    exact readWord_ofInt hn
  | text h => rw [value?, Stroke.read?_of_spells h, Option.map_some, String.ofList_toList]
  | @list items vs h =>
    refine value?_list_eq_some_iff.2 ?_
    cases depth with
    | zero =>
      obtain rfl : vs = [] := hfits
      cases h
      exact ⟨fun hne => absurd rfl hne, [], rfl, rfl⟩
    | succ depth =>
      exact ⟨fun _ => by omega, vs, itemValues?_of_spells h hfits (by omega), rfl⟩
  | @table entries bag distinct h =>
    refine value?_table_eq_some_iff.2 ?_
    cases depth with
    | zero =>
      obtain rfl : bag = [] := hfits
      cases h
      exact ⟨fun hne => absurd rfl hne, [], rfl, rfl⟩
    | succ depth =>
      exact ⟨fun _ => by omega, bag, entryValues?_of_spells h hfits (by omega),
        by rw [Bag.onto_nil_of_distinct distinct]⟩
termination_by structural document

theorem itemValues?_of_spells {items : List Document} {vs : List Value} (h : SpellsItems items vs)
    {opened depth : Nat} (hfits : ∀ v ∈ vs, Fits depth v) (hdeep : opened + depth ≤ deepest) :
    itemValues? opened items = some vs := by
  cases h with
  | nil => rfl
  | cons first rest =>
    obtain ⟨hfirst, hrest⟩ := List.forall_mem_cons.1 hfits
    rw [itemValues?, value?_of_spells first hfirst hdeep, itemValues?_of_spells rest hrest hdeep]
    rfl
termination_by structural items

theorem entryValues?_of_spells {entries : List (List Stroke × Document)} {bag : Bag}
    (h : SpellsEntries entries bag) {opened depth : Nat} (hfits : ∀ entry ∈ bag, Fits depth entry.2)
    (hdeep : opened + depth ≤ deepest) : entryValues? opened entries = some bag := by
  cases h with
  | nil => rfl
  | cons named first rest =>
    obtain ⟨hfirst, hrest⟩ := List.forall_mem_cons.1 hfits
    rw [entryValues?, Stroke.read?_of_spells named, value?_of_spells first hfirst hdeep,
      entryValues?_of_spells rest hrest hdeep]
    simp
termination_by structural entries

end

/-! ## Writing -/

/-- Whether a value can be spelled in what may be written. -/
def IsWritten (v : Value) : Prop :=
  ∃ document : Document, document.Spells v ∧ ∀ lexeme ∈ document.lexemes, lexeme.IsLegal

theorem isWritten_null : IsWritten .null := ⟨_, .null, by decide⟩

theorem isWritten_bool (b : Bool) : IsWritten (.bool b) :=
  ⟨_, .bool b, by cases b <;> decide⟩

/-- A numeral is a word. -/
theorem isWritten_int (n : Int) : IsWritten (.int n) := by
  refine ⟨_, .int n, ?_⟩
  have hdigits : ∀ c ∈ Nat.toDigits 10 n.natAbs, isWord c = true := by
    intro c hc
    have hdigit : c.isDigit = true := Nat.isDigit_of_mem_toDigits (by decide) (by decide) hc
    simp [isWord, Char.isAlphanum, hdigit]
  have hne : Nat.toDigits 10 n.natAbs ≠ [] := Nat.toDigits_ne_nil
  simp only [lexemes, List.forall_mem_singleton]
  cases n with
  | ofNat k =>
    rw [Text.ofInt, String.toList_ofList]
    exact ⟨hne, hdigits⟩
  | negSucc k =>
    rw [Text.ofInt, String.toList_ofList]
    exact ⟨List.cons_ne_nil _ _, List.forall_mem_cons.2 ⟨rfl, hdigits⟩⟩

/-- The strokes for characters make a quoted text. -/
theorem isLegal_quoted (cs : List Char) : (Lexeme.quoted (cs.map Stroke.ofChar)).IsLegal :=
  List.forall_mem_map.2 fun c _ => Stroke.isLegal_ofChar c

theorem isWritten_text (s : String) : IsWritten (.text s) :=
  ⟨_, .text (Stroke.spells_ofChars s.toList), List.forall_mem_singleton.2 (isLegal_quoted _)⟩

/-- A list can be written if its items can. -/
theorem isWritten_list {vs : List Value} (h : ∀ v ∈ vs, IsWritten v) : IsWritten (.list vs) := by
  have hitems : ∃ items, SpellsItems items vs ∧
      ∀ item ∈ items, ∀ lexeme ∈ item.lexemes, lexeme.IsLegal := by
    induction vs with
    | nil => exact ⟨[], .nil, List.forall_mem_nil _⟩
    | cons v vs ih =>
      obtain ⟨⟨item, hspells, hlegal⟩, hrest⟩ := List.forall_mem_cons.1 h
      obtain ⟨items, hitems, hlegals⟩ := ih hrest
      exact ⟨item :: items, .cons hspells hitems, List.forall_mem_cons.2 ⟨hlegal, hlegals⟩⟩
  obtain ⟨items, hspells, hlegal⟩ := hitems
  exact ⟨_, .list hspells, isLegal_list hlegal⟩

/-- A table with every name once can be written if its values can. -/
theorem isWritten_table {bag : Bag} (distinct : bag.Distinct)
    (h : ∀ entry ∈ bag, IsWritten entry.2) : IsWritten (.table bag) := by
  have hentries : ∃ entries, SpellsEntries entries bag ∧ ∀ entry ∈ entries,
      (Lexeme.quoted entry.1).IsLegal ∧ ∀ lexeme ∈ entry.2.lexemes, lexeme.IsLegal := by
    clear distinct
    induction bag with
    | nil => exact ⟨[], .nil, List.forall_mem_nil _⟩
    | cons entry bag ih =>
      obtain ⟨⟨value, hspells, hlegal⟩, hrest⟩ := List.forall_mem_cons.1 h
      obtain ⟨entries, hentries, hlegals⟩ := ih hrest
      exact ⟨(entry.1.toList.map Stroke.ofChar, value) :: entries,
        .cons (Stroke.spells_ofChars _) hspells hentries,
        List.forall_mem_cons.2 ⟨⟨isLegal_quoted _, hlegal⟩, hlegals⟩⟩
  obtain ⟨entries, hspells, hlegal⟩ := hentries
  exact ⟨_, .table distinct hspells, isLegal_table hlegal⟩

end Document

end CardPayments.Json
