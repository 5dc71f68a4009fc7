import CardPayments.Proofs.Text.Case
import CardPayments.Text.Letter

/-!
# Letters in upper case

A letter stays a letter in upper case, or becomes several characters. So a text of letters is still
one in upper case, unless one of its letters becomes several; then it is longer.
-/

namespace CardPayments.Text

/-- Whether the letters that the run moves stay letters: it moves everything among letters that are
listed together, or each of its letters to a letter. -/
def CaseRun.keepsLetters (run : CaseRun) : Bool :=
  letterRanges.any (fun range => range.1.ble run.low && run.high.ble range.2) ||
    (List.range (run.last + 1 - run.first)).all fun i =>
      !run.moves (run.first + i) || !inRanges letterRanges (run.first + i) ||
        inRanges letterRanges (((run.first + i : Nat) : Int) + run.shift).toNat

/-- All runs do. -/
theorem runs_keepLetters : upperRuns.all CaseRun.keepsLetters = true := by decide +kernel

/-- Every listed letter is a character. -/
theorem letterRanges_valid : letterRanges.all (fun range =>
    range.2.blt 0xd800 || (Nat.blt 0xdfff range.1 && range.2.blt 0x110000)) = true := by
  decide +kernel

/-- No letter becomes fewer than two where it becomes several. -/
theorem expansions_long : ∀ entry ∈ upperExpansions, 2 ≤ entry.2.length := by
  decide +kernel

/-- Only the letters of ASCII are listed below 128. -/
theorem inRanges_ascii {code : Nat} (h : code < 0x80) : inRanges letterRanges code =
    inRanges [(0x41, 0x5a), (0x61, 0x7a)] code := by
  have hrest : (letterRanges.drop 2).all (fun range => Nat.ble 0x80 range.1) = true := by
    decide +kernel
  have hnone : inRanges (letterRanges.drop 2) code = false := by
    rw [← Bool.not_eq_true, inRanges_iff]
    rintro ⟨range, hrange, hmin, -⟩
    have hbound := Nat.ble_eq.mp (List.all_eq_true.1 hrest range hrange)
    omega
  have hsplit : letterRanges = [(0x41, 0x5a), (0x61, 0x7a)] ++ letterRanges.drop 2 := rfl
  rw [hsplit, inRanges, List.any_append, ← inRanges, ← inRanges, hnone, Bool.or_false]

/-- The letters are those that are listed, in ASCII too. -/
theorem isLetter_eq (c : Char) : isLetter c = inRanges letterRanges c.toNat := by
  unfold isLetter
  split
  · rename_i hascii
    rw [inRanges_ascii hascii]
    exact forall_ascii c hascii (by decide +kernel)
  · rfl

/-- A listed code is the code of a letter. -/
theorem isLetter_ofNat {code : Nat} (h : inRanges letterRanges code = true) :
    isLetter (Char.ofNat code) = true := by
  obtain ⟨range, hrange, hmin, hmax⟩ := inRanges_iff.1 h
  have hbounds := List.all_eq_true.1 letterRanges_valid range hrange
  simp only [Bool.or_eq_true, Bool.and_eq_true, Nat.blt_eq] at hbounds
  have hvalid : code.isValidChar := by
    rcases hbounds with hlow | ⟨hhigh, hend⟩
    · exact Or.inl (by omega)
    · exact Or.inr ⟨by omega, by omega⟩
  rw [isLetter_eq, toNat_ofNat hvalid]
  exact h

/-- A run that keeps letters moves a letter to a letter. -/
theorem CaseRun.inRanges_shift {run : CaseRun} (h : run.keepsLetters = true) {code : Nat}
    (hmoves : run.moves code = true) (hletter : inRanges letterRanges code = true) :
    inRanges letterRanges ((code : Int) + run.shift).toNat = true := by
  have hbetween := hmoves
  unfold moves at hbetween
  simp only [Bool.and_eq_true, decide_eq_true_eq] at hbetween
  obtain ⟨⟨hfirst, hlast⟩, -⟩ := hbetween
  unfold keepsLetters low high at h
  simp only [Bool.or_eq_true, List.any_eq_true, List.all_eq_true, Bool.and_eq_true,
    Nat.ble_eq] at h
  rcases h with ⟨range, hrange, hmin, hmax⟩ | heach
  · exact inRanges_iff.2 ⟨range, hrange, by omega, by omega⟩
  · have hcode := heach (code - run.first) (List.mem_range.2 (by omega))
    rw [Nat.add_sub_cancel' hfirst, hmoves, hletter] at hcode
    simpa using hcode

/-- A letter ends up as a letter, wherever the runs move it. -/
theorem inRanges_shiftCase {code : Nat} (h : inRanges letterRanges code = true) :
    inRanges letterRanges (shiftCase upperRuns code) = true := by
  unfold shiftCase
  cases hfind : upperRuns.find? (·.moves code) with
  | none => exact h
  | some run =>
    have hmoves : run.moves code = true := by simpa using List.find?_some hfind
    have hkeeps := List.all_eq_true.1 runs_keepLetters run (List.mem_of_find?_eq_some hfind)
    exact CaseRun.inRanges_shift hkeeps hmoves h

/-- A character becomes one character in upper case, or at least two. -/
theorem upperOf_cases (c : Char) :
    (∃ d, upperOf c = [d] ∧ (isLetter c = true → isLetter d = true)) ∨
      2 ≤ (upperOf c).length := by
  unfold upperOf
  split
  · rename_i hascii
    refine Or.inl ⟨_, rfl, fun hletter => ?_⟩
    have hcase : c.isAlpha = true → c.toUpper.isAlpha = true ∧ c.toUpper.toNat < 0x80 :=
      forall_ascii c hascii (by decide +kernel)
    rw [isLetter, if_pos hascii] at hletter
    obtain ⟨hupper, hsmall⟩ := hcase hletter
    rw [isLetter, if_pos hsmall]
    exact hupper
  · split
    · rename_i codes hlookup
      obtain ⟨before, behind, hentries, -⟩ := List.lookup_eq_some_iff.1 hlookup
      have hmem : (c.toNat, codes) ∈ upperExpansions := by
        rw [hentries]
        exact List.mem_append_right _ List.mem_cons_self
      right
      rw [List.length_map]
      exact expansions_long _ hmem
    · refine Or.inl ⟨_, rfl, fun hletter => ?_⟩
      rw [isLetter_eq] at hletter
      exact isLetter_ofNat (inRanges_shiftCase hletter)

/-- Whether a text keeps its length in upper case, letter by letter. -/
def StaysSingle (s : String) : Prop := ∀ c ∈ s.toList, (upperOf c).length = 1

instance : DecidablePred StaysSingle := fun s =>
  List.decidableBAll (fun c => (upperOf c).length = 1) s.toList

theorem toList_toUpper (s : String) : (toUpper s).toList = s.toList.flatMap upperOf := by
  rw [toUpper, String.toList_ofList]

/-- No text is shorter in upper case, and only one of single letters is as long. -/
theorem length_flatMap_upperOf (cs : List Char) : cs.length ≤ (cs.flatMap upperOf).length ∧
    ((cs.flatMap upperOf).length = cs.length ↔ ∀ c ∈ cs, (upperOf c).length = 1) := by
  induction cs with
  | nil => simp
  | cons c cs ih =>
    obtain ⟨hle, hiff⟩ := ih
    rw [List.flatMap_cons, List.length_append, List.length_cons, List.forall_mem_cons, ← hiff]
    rcases upperOf_cases c with ⟨d, hd, -⟩ | htwo
    · rw [hd, List.length_singleton]
      omega
    · omega

/-- A text has its length in upper case exactly if no letter becomes several. -/
theorem length_toUpper_eq_iff (s : String) :
    (toUpper s).toList.length = s.toList.length ↔ StaysSingle s := by
  rw [toList_toUpper]
  exact (length_flatMap_upperOf s.toList).2

/-- A text of letters that stay single is a text of letters in upper case. -/
theorem isAlphabetic_toUpper {s : String} (h : isAlphabetic s = true) (hsingle : StaysSingle s) :
    isAlphabetic (toUpper s) = true := by
  rw [isAlphabetic_iff] at h ⊢
  obtain ⟨hnonempty, hletters⟩ := h
  constructor
  · rw [← List.length_pos_iff, (length_toUpper_eq_iff s).2 hsingle, List.length_pos_iff]
    exact hnonempty
  · intro d hd
    rw [toList_toUpper, List.mem_flatMap] at hd
    obtain ⟨c, hc, hd⟩ := hd
    rcases upperOf_cases c with ⟨e, he, hletter⟩ | htwo
    · rw [he, List.mem_singleton] at hd
      rw [hd]
      exact hletter (hletters c hc)
    · have hone := hsingle c hc
      omega

end CardPayments.Text
