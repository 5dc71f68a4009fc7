import CardPayments.Proofs.Json.Document
import CardPayments.Proofs.Merge
import CardPayments.Proofs.Text.Numeral

/-!
# Whole numbers in JSON

A whole number is read from its numeral, unless that is too long. So no whole number in a value that
a document stands for reaches the bound, however deep it lies.
-/

namespace CardPayments.Json

open Text (maxNumeralLength)

/-- The numeral of a whole number has no needless zeros. -/
theorem toDigits_leading {n : Nat} {digit : Char} {more : List Char}
    (h : Nat.toDigits 10 n = digit :: more) : ¬ (digit = '0' ∧ more ≠ []) := by
  rintro ⟨rfl, hmore⟩
  have hpos : 0 < more.length := List.length_pos_iff.2 hmore
  have hdigits : ∀ c ∈ Nat.toDigits 10 n, c.isDigit = true :=
    fun c hc => Nat.isDigit_of_mem_toDigits (by decide) (by decide) hc
  rw [h] at hdigits
  have hvalue : Nat.ofDigitChars 10 more 0 = n := by
    have hn : Nat.ofDigitChars 10 (Nat.toDigits 10 n) 0 = n :=
      Nat.ofDigitChars_toDigits (by decide) (by decide)
    rwa [h, Nat.ofDigitChars_cons] at hn
  have hlt := Text.ofDigitChars_lt (List.forall_mem_cons.1 hdigits).2 0
  rw [hvalue, Nat.zero_add, Nat.one_mul] at hlt
  have hlength := (Nat.length_toDigits_le_iff (by decide) hpos).2 hlt
  rw [h, List.length_cons] at hlength
  omega

/-- A word that ends in a digit is no constant. -/
theorem readWord_of_getLast {cs : List Char} {c : Char} (h : cs.getLast? = some c)
    (hc : c.isDigit = true) : readWord .strict cs = readNumber .strict cs := by
  have hconstants : ∀ word ∈ ["null", "true", "false", "NaN", "Infinity", "-Infinity"],
      word.toList.getLast?.any Char.isDigit = false := by decide
  have hne : ∀ word ∈ ["null", "true", "false", "NaN", "Infinity", "-Infinity"],
      cs ≠ word.toList := by
    rintro word hword rfl
    have hlast := hconstants word hword
    rw [h, Option.any_some, hc] at hlast
    cases hlast
  simp only [List.forall_mem_cons] at hne
  obtain ⟨hnull, htrue, hfalse, hnan, hinf, hneg, -⟩ := hne
  rw [readWord, if_neg hnull, if_neg htrue, if_neg hfalse, if_neg hnan, if_neg hinf, if_neg hneg]

/-- Digits without needless zeros are read as what they stand for, with either sign. -/
theorem readNumber_digits {digits : List Char} (hne : digits ≠ [])
    (hdigits : ∀ c ∈ digits, c.isDigit = true)
    (hleading : ∀ digit more, digits = digit :: more → ¬ (digit = '0' ∧ more ≠ []))
    (hlength : digits.length ≤ maxNumeralLength) :
    readNumber .strict digits = some (.int (Nat.ofDigitChars 10 digits 0)) ∧
      readNumber .strict ('-' :: digits) = some (.int (-Nat.ofDigitChars 10 digits 0)) := by
  have htake : (digits ++ []).takeWhile Char.isDigit = digits ++ [].takeWhile Char.isDigit :=
    List.takeWhile_append_of_pos hdigits
  have hdrop : (digits ++ []).dropWhile Char.isDigit = [].dropWhile Char.isDigit :=
    List.dropWhile_append_of_pos hdigits
  rw [List.takeWhile_nil, List.append_nil] at htake
  rw [List.dropWhile_nil, List.append_nil] at hdrop
  have hadmits : Dialect.strict.admitsWhole digits [] = true := by
    simp [Dialect.admitsWhole, hlength]
  obtain ⟨digit, more, rfl⟩ := List.exists_cons_of_ne_nil hne
  have hsign : digit ≠ '-' := by
    rintro rfl
    exact absurd (hdigits _ List.mem_cons_self) (by decide)
  have hzero := hleading digit more rfl
  constructor
  · unfold readNumber
    split
    rename_i negative magnitude heq
    split at heq
    · rename_i rest hcons
      exact absurd (List.cons.inj hcons).1 hsign
    · obtain ⟨rfl, rfl⟩ := Prod.mk.inj heq
      simp only [htake, hdrop, hadmits, Bool.not_true, Bool.false_eq_true, or_false, if_neg hzero]
      rfl
  · unfold readNumber
    simp only [htake, hdrop, hadmits, Bool.not_true, Bool.false_eq_true, or_false, if_neg hzero]
    rfl

/-- A whole number is read from its numeral, unless that is too long. -/
theorem readWord_ofInt {n : Int} (h : n.natAbs < 10 ^ maxNumeralLength) :
    readWord .strict (Text.ofInt n).toList = some (.int n) := by
  have hne : Nat.toDigits 10 n.natAbs ≠ [] := Nat.toDigits_ne_nil
  have hdigits : ∀ c ∈ Nat.toDigits 10 n.natAbs, c.isDigit = true :=
    fun c hc => Nat.isDigit_of_mem_toDigits (by decide) (by decide) hc
  have hlast := List.getLast?_eq_some_getLast hne
  have hlastDigit := hdigits _ (List.getLast_mem hne)
  have hlength := (Nat.length_toDigits_le_iff (by decide) (by decide)).2 h
  obtain ⟨hpos, hneg⟩ := readNumber_digits hne hdigits (fun _ _ => toDigits_leading) hlength
  rw [Nat.ofDigitChars_toDigits (by decide) (by decide)] at hpos hneg
  cases n with
  | ofNat k =>
    rw [Text.ofInt, String.toList_ofList]
    exact (readWord_of_getLast hlast hlastDigit).trans hpos
  | negSucc k =>
    have hlast' := (List.getLast?_cons_of_ne_nil (x := '-') hne).trans hlast
    rw [Text.ofInt, String.toList_ofList]
    exact (readWord_of_getLast hlast' hlastDigit).trans hneg

/-- A number is read as a double, or as a whole number below the bound. -/
theorem readNumber_cases {cs : List Char} {v : Value} (h : readNumber .strict cs = some v) :
    (∃ x, v = .float x) ∨ ∃ n : Int, v = .int n ∧ n.natAbs < 10 ^ maxNumeralLength := by
  unfold readNumber at h
  split at h
  rename_i negative magnitude _
  dsimp only at h
  have hdigits : ∀ c ∈ magnitude.takeWhile Char.isDigit, c.isDigit = true :=
    List.all_eq_true.1 List.all_takeWhile
  split at h
  · cases h
  · rename_i digit more hwhole
    split at h
    · cases h
    · rename_i hadmits
      rw [hwhole] at hdigits hadmits
      have hlength : (digit :: more).length ≤ maxNumeralLength := by
        simpa [Dialect.admitsWhole, Dialect.strict] using (not_or.1 hadmits).2
      unfold number? at h
      dsimp only at h
      split at h
      · refine Or.inr ⟨_, (Option.some.inj h).symm, ?_⟩
        rw [Text.natAbs_signed, hwhole]
        exact Text.ofDigitChars_lt_of_length_le hdigits hlength
      · split at h
        · cases h
        · obtain ⟨_, -, rfl⟩ := Option.map_eq_some_iff.1 h
          exact Or.inl ⟨_, rfl⟩
      · obtain ⟨_, -, rfl⟩ := Option.map_eq_some_iff.1 h
        exact Or.inl ⟨_, rfl⟩

/-- A word stands for a constant, a double, or a whole number below the bound. -/
theorem readWord_cases {cs : List Char} {v : Value} (h : readWord .strict cs = some v) :
    v = .null ∨ (∃ b, v = .bool b) ∨ (∃ x, v = .float x) ∨
      ∃ n : Int, v = .int n ∧ n.natAbs < 10 ^ maxNumeralLength := by
  unfold readWord at h
  split at h
  · exact Or.inl (Option.some.inj h).symm
  iterate 2
    split at h
    · exact Or.inr (Or.inl ⟨_, (Option.some.inj h).symm⟩)
  iterate 3
    split at h
    · exact Or.inr (Or.inr (Or.inl ⟨_, (Option.some.inj h).symm⟩))
  exact Or.inr (Or.inr (readNumber_cases h))

/-! ## Inside a value -/

/-- A value and everything that lies inside it. -/
inductive Holds : Value → Value → Prop where
  /-- The value itself. -/
  | self (v : Value) : Holds v v
  /-- What an item of a list holds. -/
  | item {items : List Value} {item v : Value} (h : item ∈ items) (inner : Holds item v) :
    Holds (.list items) v
  /-- What a value of a table holds. -/
  | entry {entries : Bag} {entry : String × Value} {v : Value} (h : entry ∈ entries)
    (inner : Holds entry.2 v) : Holds (.table entries) v

namespace Document

/-- What lies in a table that is laid on nothing lies in one of its entries. -/
theorem holds_onto {bag : Bag} {v : Value} (h : Holds (.table (Bag.onto bag [])) v)
    (hself : ∀ entries, v ≠ .table entries) : ∃ entry ∈ bag, Holds entry.2 v := by
  cases h with
  | self => exact absurd rfl (hself _)
  | @entry _ entry _ hmem inner =>
    rcases Bag.mem_onto hmem with hget | ⟨hnil, -⟩
    · exact ⟨entry, List.mem_reverse.1 (Bag.mem_of_get? hget), inner⟩
    · cases hnil

mutual

/-- No whole number inside a value that a document stands for reaches the bound. -/
theorem lt_of_holds {opened : Nat} {v : Value} {n : Int} :
    ∀ document : Document, document.value? opened = some v → Holds v (.int n) →
      n.natAbs < 10 ^ maxNumeralLength
  | .word cs, hvalue, hholds => by
    rcases readWord_cases hvalue with rfl | ⟨b, rfl⟩ | ⟨x, rfl⟩ | ⟨m, rfl, hlt⟩ <;> cases hholds
    exact hlt
  | .quoted strokes, hvalue, hholds => by
    obtain ⟨cs, -, rfl⟩ := Option.map_eq_some_iff.1 hvalue
    cases hholds
  | .list items, hvalue, hholds => by
    obtain ⟨-, vs, hvs, rfl⟩ := value?_list_eq_some_iff.1 hvalue
    cases hholds with
    | item hmem inner => exact lt_of_holds_items items hvs hmem inner
  | .table entries, hvalue, hholds => by
    obtain ⟨-, bag, hbag, rfl⟩ := value?_table_eq_some_iff.1 hvalue
    obtain ⟨entry, hmem, inner⟩ := holds_onto hholds (by simp)
    exact lt_of_holds_entries entries hbag hmem inner

theorem lt_of_holds_items {opened : Nat} {vs : List Value} {v : Value} {n : Int} :
    ∀ items : List Document, itemValues? opened items = some vs → v ∈ vs → Holds v (.int n) →
      n.natAbs < 10 ^ maxNumeralLength
  | [], hvs, hmem, _ => by
    obtain rfl := Option.some.inj hvs
    cases hmem
  | item :: items, hvs, hmem, hholds => by
    obtain ⟨first, more, hfirst, hmore, rfl⟩ :=
      List.forall₂_cons_left_iff.1 (itemValues?_eq_some_iff.1 hvs)
    rcases List.mem_cons.1 hmem with rfl | hmem
    · exact lt_of_holds item hfirst hholds
    · exact lt_of_holds_items items (itemValues?_eq_some_iff.2 hmore) hmem hholds

theorem lt_of_holds_entries {opened : Nat} {bag : Bag} {named : String × Value} {n : Int} :
    ∀ entries : List (List Stroke × Document), entryValues? opened entries = some bag →
      named ∈ bag → Holds named.2 (.int n) → n.natAbs < 10 ^ maxNumeralLength
  | [], hbag, hmem, _ => by
    obtain rfl := Option.some.inj hbag
    cases hmem
  | (key, value) :: entries, hbag, hmem, hholds => by
    obtain ⟨first, more, ⟨-, hfirst⟩, hmore, rfl⟩ :=
      List.forall₂_cons_left_iff.1 (entryValues?_eq_some_iff.1 hbag)
    rcases List.mem_cons.1 hmem with rfl | hmem
    · exact lt_of_holds value hfirst hholds
    · exact lt_of_holds_entries entries (entryValues?_eq_some_iff.2 hmore) hmem hholds

end

end Document

end CardPayments.Json
