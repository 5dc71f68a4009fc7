import CardPayments.Text.Numeral
import Mathlib.Tactic.Ring

/-!
# The size of numerals

Digits stand for less than the power of ten that has one digit more. No numeral is read that has
more digits than the limit, so every whole number that is read from a text is below one bound.
-/

namespace CardPayments.Text

/-- A digit stands for less than ten. -/
theorem toNat_sub_lt {c : Char} (h : c.isDigit = true) : c.toNat - '0'.toNat < 10 := by
  have hvalue : '0'.toNat = 48 := rfl
  have hle : c.toNat ≤ 57 := by
    simp only [Char.isDigit, Bool.and_eq_true, decide_eq_true_eq] at h
    exact h.2
  omega

/-- Digits behind a number multiply it by a power of ten and fill less than the gap. -/
theorem ofDigitChars_lt {digits : List Char} (h : ∀ c ∈ digits, c.isDigit = true) (init : Nat) :
    Nat.ofDigitChars 10 digits init < (init + 1) * 10 ^ digits.length := by
  induction digits generalizing init with
  | nil => simp [Nat.ofDigitChars]
  | cons c digits ih =>
    obtain ⟨hc, hdigits⟩ := List.forall_mem_cons.1 h
    have hdigit := toNat_sub_lt hc
    calc Nat.ofDigitChars 10 (c :: digits) init
        = Nat.ofDigitChars 10 digits (10 * init + (c.toNat - '0'.toNat)) := rfl
      _ < (10 * init + (c.toNat - '0'.toNat) + 1) * 10 ^ digits.length := ih hdigits _
      _ ≤ (10 * (init + 1)) * 10 ^ digits.length := Nat.mul_le_mul_right _ (by omega)
      _ = (init + 1) * 10 ^ (c :: digits).length := by rw [List.length_cons, pow_succ]; ring

/-- A run of digits that is not too long stands for a number below the bound. -/
theorem ofDigitChars_lt_of_length_le {digits : List Char} (h : ∀ c ∈ digits, c.isDigit = true)
    (hlength : digits.length ≤ maxNumeralLength) :
    Nat.ofDigitChars 10 digits 0 < 10 ^ maxNumeralLength := by
  have hlt := ofDigitChars_lt h 0
  rw [Nat.zero_add, Nat.one_mul] at hlt
  exact hlt.trans_le (Nat.pow_le_pow_right (by decide) hlength)

/-- A sign leaves the magnitude alone. -/
theorem natAbs_signed (negative : Bool) (n : Nat) : (signed negative n).natAbs = n := by
  cases negative <;> simp [signed]

/-- A numeral in its plain form is below the bound. -/
theorem readPlain_lt {cs : List Char} {n : Int} (h : readPlain cs = .number n) :
    n.natAbs < 10 ^ maxNumeralLength := by
  unfold readPlain at h
  split at h
  rename_i negative numeral _
  dsimp only at h
  split at h
  · cases h
  · split at h
    · cases h
    · split at h
      · cases h
      · rename_i hlength
        split at h
        · obtain rfl := Reading.number.inj h
          rw [natAbs_signed]
          exact ofDigitChars_lt_of_length_le (List.all_eq_true.1 List.all_takeWhile)
            (not_lt.1 hlength)
        · cases h

/-- So is every whole number that is read from the text of a field. -/
theorem readInt_lt {s : String} {n : Int} (h : readInt s = .number n) :
    n.natAbs < 10 ^ maxNumeralLength := by
  unfold readInt at h
  split at h
  · split at h
    · rename_i m hplain
      obtain rfl := Reading.number.inj h
      obtain ⟨numeral, -, hread⟩ := Option.map_eq_some_iff.1 hplain
      exact readPlain_lt hread
    · cases h
  · exact readPlain_lt h

end CardPayments.Text
