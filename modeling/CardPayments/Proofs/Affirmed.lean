import CardPayments.Proofs.Bag
import CardPayments.Proofs.Text.Case

/-!
# What stands for yes

A property stands for yes by its text. The store rewrites decimals into their texts, at any depth:
a decimal reads the same before and after, and a list or a table reads as something in brackets,
which stands for yes neither way. So whether a property stands for yes is the same when it is read
back.
-/

namespace CardPayments

namespace Text

/-- A character that is not stripped stays the first one. -/
theorem exists_strip_cons {p : Char → Bool} {c : Char} (h : p c = false) (cs : List Char) :
    ∃ rest, strip p (c :: cs) = c :: rest := by
  have hfront : (c :: cs).dropWhile p = c :: cs := List.dropWhile_cons_of_neg (by simp [h])
  have hlast : [c].dropWhile p = [c] := List.dropWhile_cons_of_neg (by simp [h])
  unfold strip
  rw [hfront, List.reverse_cons, List.dropWhile_append]
  split
  · exact ⟨[], by rw [hlast]; rfl⟩
  · exact ⟨_, List.reverse_concat⟩

/-- A character that is its own lower case stays the first one. -/
theorem exists_lowerAfter_cons {c : Char} (hsigma : c.toNat ≠ 0x3a3) (hlower : lowerOf c = [c])
    (before rest : List Char) : ∃ rest', lowerAfter before (c :: rest) = c :: rest' := by
  unfold lowerAfter
  rw [if_neg hsigma, hlower]
  exact ⟨_, rfl⟩

end Text

namespace Value

/-- What begins with a character that is neither a blank nor a letter does not stand for yes. -/
theorem affirmative_eq_false {s : String} {c : Char} {cs : List Char} (hs : s.toList = c :: cs)
    (hblank : Text.isBlank c = false) (hsigma : c.toNat ≠ 0x3a3) (hlower : Text.lowerOf c = [c])
    (hc : c ≠ 't') : affirmative s = false := by
  obtain ⟨trimmed, htrim⟩ := Text.exists_strip_cons hblank cs
  obtain ⟨lowered, hlow⟩ := Text.exists_lowerAfter_cons hsigma hlower [] trimmed
  have htext : (Text.toLower (Text.trim s)).toList = c :: lowered := by
    rw [Text.toLower, Text.trim, hs, htrim, String.toList_ofList, String.toList_ofList, hlow]
  refine beq_eq_false_iff_ne.2 fun heq => hc ?_
  rw [heq] at htext
  exact (List.cons.inj htext).1.symm

/-- A word in any case stands for yes if it is the word true. -/
theorem affirmative_of_word {s word : String} (h : s.toList.map Char.toLower = word.toList)
    (hword : ∀ c ∈ word.toList, c.toNat < 0x80 ∧ Text.isBlank c = false) :
    affirmative s = (word == "true") := by
  rw [affirmative, Text.toLower_trim_of_word h hword]

/-- A list does not stand for yes, whatever it holds. -/
theorem isTrue_list (items : List Value) : isTrue (.list items) = false := by
  have hs : (nestedText (.list items)).toList =
      '[' :: (String.intercalate ", " (itemTexts items) ++ "]").toList := by
    simp [nestedText, String.toList_append]
  exact affirmative_eq_false hs (by decide) (by decide) (by decide) (by decide)

/-- Nor does a table. -/
theorem isTrue_table (entries : List (String × Value)) : isTrue (.table entries) = false := by
  have hs : (nestedText (.table entries)).toList =
      '\x7b' :: (String.intercalate ", " (entryTexts entries) ++ "\x7d").toList := by
    simp [nestedText, String.toList_append]
  exact affirmative_eq_false hs (by decide) (by decide) (by decide) (by decide)

/-- A value stands for yes as it is kept exactly if it does so as it is. -/
theorem isTrue_storable (v : Value) : v.storable.isTrue = v.isTrue := by
  cases v with
  | list items =>
    unfold storable
    rw [isTrue_list, isTrue_list]
  | table entries =>
    unfold storable
    rw [isTrue_table, isTrue_table]
  | _ => rfl

end Value

namespace Bag

/-- A property stands for yes by its value. -/
theorem affirms_eq (bag : Bag) (key : String) :
    bag.affirms key = ((bag.get? key).map Value.isTrue).getD false := by
  unfold affirms text?
  cases bag.get? key <;> rfl

/-- A property stands for yes as it is kept exactly if it does so as it is. -/
theorem affirms_storable (bag : Bag) (key : String) :
    bag.storable.affirms key = bag.affirms key := by
  rw [affirms_eq, affirms_eq, get?_storable, Option.map_map]
  congr 2
  exact funext Value.isTrue_storable

end Bag

example : Value.isTrue (.text " TRUE ") = true ∧ Value.isTrue (.bool true) = true ∧
    Value.isTrue (.list [.text "true"]) = false ∧ Value.isTrue (.int 1) = false := by
  decide +kernel

end CardPayments
