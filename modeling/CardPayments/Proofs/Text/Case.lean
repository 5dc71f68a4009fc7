import CardPayments.Text.Blank
import CardPayments.Text.Case
import Mathlib.Data.List.Basic

/-!
# Upper and lower case

A text in upper case stays as it is when it is put into upper case again: no letter moves to one
that moves itself. Of the two kinds of lower case, that of the whole of Unicode and that of ASCII,
the first does to ASCII letters what the second does. It leaves no capital letter of ASCII.
-/

namespace CardPayments.Text

/-! ## Upper case twice -/

namespace CaseRun

/-- The code to which the first letter of the run moves. -/
def low (run : CaseRun) : Nat := (run.first + run.shift).toNat

/-- The code to which its last letter moves. -/
def high (run : CaseRun) : Nat := (run.last + run.shift).toNat

/-- Whether no letter moves to a letter of the other run: they lie to one side of it, or fall
between its letters. -/
def avoids (run other : CaseRun) : Bool :=
  run.high.blt other.first || other.last.blt run.low ||
    ((run.step == 2 || run.first == run.last) && other.step == 2 &&
      (run.low + other.first) % 2 == 1)

/-- A run that avoids another moves no letter to one that the other moves. -/
theorem moves_shift_of_avoids {run other : CaseRun} (hlow : 0 ≤ run.first + run.shift)
    (h : run.avoids other = true) {code : Nat} (hcode : run.moves code = true) :
    other.moves ((code : Int) + run.shift).toNat = false := by
  unfold avoids low high at h
  unfold moves at hcode ⊢
  simp only [Bool.or_eq_true, Bool.and_eq_true, Nat.blt_eq, decide_eq_true_eq,
    beq_iff_eq] at h hcode
  obtain ⟨⟨hfirst, hlast⟩, hstep⟩ := hcode
  rw [← Bool.not_eq_true]
  simp only [Bool.and_eq_true, decide_eq_true_eq, beq_iff_eq, not_and]
  rintro ⟨hmin, hmax⟩
  rcases h with (hbelow | habove) | ⟨⟨hshape, htwo⟩, hodd⟩
  · omega
  · omega
  · rw [htwo]
    rcases hshape with hpairs | hsingle
    · rw [hpairs] at hstep
      omega
    · omega

end CaseRun

/-- All letters that upper case changes, in runs. -/
def changedRuns : List CaseRun :=
  upperRuns ++ upperExpansions.map fun entry => ⟨entry.1, entry.1, 1, 0⟩

/-- No letter moves to one that upper case changes. -/
theorem runs_avoid : upperRuns.all (fun run =>
    0 ≤ run.first + run.shift && changedRuns.all run.avoids) = true := by
  decide +kernel

/-- No letter becomes several of which upper case changes one. -/
theorem expansions_avoid : ∀ entry ∈ upperExpansions, ∀ code ∈ entry.2, ∀ run ∈ changedRuns,
    run.moves code = false := by
  decide +kernel

theorem toNat_ofNat {n : Nat} (h : n.isValidChar) : (Char.ofNat n).toNat = n := by
  unfold Char.ofNat
  rw [dif_pos h]
  rfl

/-- What holds of the characters of the codes of ASCII holds of all characters of ASCII. -/
@[elab_as_elim]
theorem forall_ascii {motive : Char → Prop} (c : Char) (hascii : c.toNat < 0x80)
    (h : ∀ code < 0x80, motive (Char.ofNat code)) : motive c := by
  have hc := h c.toNat hascii
  rwa [Char.ofNat_toNat] at hc

/-- Of single letters a run moves the one. -/
theorem CaseRun.moves_single (first n : Nat) (shift : Int) :
    CaseRun.moves ⟨first, first, 1, shift⟩ n = false ↔ n ≠ first := by
  simp [moves, Nat.mod_one]
  omega

/-- Runs leave a letter alone that has none among them. -/
theorem shiftCase_of_unmoved {runs : List CaseRun} {n : Nat}
    (h : ∀ run ∈ runs, run.moves n = false) : shiftCase runs n = n := by
  have hfind : runs.find? (·.moves n) = none := by
    rw [List.find?_eq_none]
    intro run hrun
    rw [h run hrun]
    exact Bool.false_ne_true
  rw [shiftCase, hfind]

/-- A character outside of the runs stays as it is. -/
theorem upperOf_of_unchanged {c : Char} (h : ∀ run ∈ changedRuns, run.moves c.toNat = false) :
    upperOf c = [c] := by
  obtain ⟨hruns, hexpansions⟩ := List.forall_mem_append.1 h
  unfold upperOf
  split
  · have hletters := hruns ⟨0x61, 0x7a, 1, -32⟩ List.mem_cons_self
    have hkept : ¬ ('a'.val ≤ c.val ∧ c.val ≤ 'z'.val) := by
      rintro ⟨hmin, hmax⟩
      have hmin' : 0x61 ≤ c.toNat := hmin
      have hmax' : c.toNat ≤ 0x7a := hmax
      simp [CaseRun.moves, hmin', hmax', Nat.mod_one] at hletters
    have hupper : c.toUpper = c := dif_neg hkept
    rw [hupper]
  · have hlookup : upperExpansions.lookup c.toNat = none :=
      List.lookup_eq_none_iff.2 fun entry hentry =>
        bne_iff_ne.2 ((CaseRun.moves_single _ _ _).1 (hexpansions _ (List.mem_map_of_mem hentry)))
    rw [hlookup, shiftCase_of_unmoved hruns]
    exact congrArg (fun d => [d]) (Char.ofNat_toNat c)

/-- So does the character of a code outside of the runs. -/
theorem upperOf_ofNat_of_unchanged {code : Nat}
    (h : ∀ run ∈ changedRuns, run.moves code = false) :
    upperOf (Char.ofNat code) = [Char.ofNat code] := by
  by_cases hvalid : code.isValidChar
  · refine upperOf_of_unchanged fun run hrun => ?_
    rw [toNat_ofNat hvalid]
    exact h run hrun
  · have hzero : Char.ofNat code = '\x00' := dif_neg hvalid
    rw [hzero]
    rfl

/-- Where a letter with a single letter in upper case ends up, no run moves it on. -/
theorem moves_shiftCase {n : Nat} (h : upperExpansions.lookup n = none) :
    ∀ run ∈ changedRuns, run.moves (shiftCase upperRuns n) = false := by
  unfold shiftCase
  cases hfind : upperRuns.find? (·.moves n) with
  | some run =>
    have hrun := List.all_eq_true.1 runs_avoid run (List.mem_of_find?_eq_some hfind)
    have hmoves := List.find?_some hfind
    rw [Bool.and_eq_true, decide_eq_true_eq, List.all_eq_true] at hrun
    exact fun other hother => CaseRun.moves_shift_of_avoids hrun.1 (hrun.2 other hother) hmoves
  | none =>
    refine List.forall_mem_append.2 ⟨fun run hrun => ?_, List.forall_mem_map.2 ?_⟩
    · exact Bool.eq_false_iff.2 (List.find?_eq_none.1 hfind run hrun)
    · exact fun entry hentry => (CaseRun.moves_single _ _ _).2
        (bne_iff_ne.1 (List.lookup_eq_none_iff.1 h entry hentry))

/-- Upper case of a character is in upper case. -/
theorem upperOf_of_mem {c d : Char} (h : d ∈ upperOf c) : upperOf d = [d] := by
  unfold upperOf at h
  split at h
  · rename_i hascii
    have hletter : upperOf c.toUpper = [c.toUpper] := forall_ascii c hascii (by decide +kernel)
    rw [List.mem_singleton.1 h, hletter]
  · split at h
    · rename_i codes hlookup
      obtain ⟨before, behind, hentries, -⟩ := List.lookup_eq_some_iff.1 hlookup
      have hmem : (c.toNat, codes) ∈ upperExpansions := by
        rw [hentries]
        exact List.mem_append_right _ List.mem_cons_self
      obtain ⟨code, hcode, rfl⟩ := List.mem_map.1 h
      exact upperOf_ofNat_of_unchanged (expansions_avoid _ hmem code hcode)
    · rename_i hlookup
      rw [List.mem_singleton.1 h]
      exact upperOf_ofNat_of_unchanged (moves_shiftCase hlookup)

/-- Upper case of a text is in upper case. -/
theorem toUpper_toUpper (s : String) : toUpper (toUpper s) = toUpper s := by
  unfold toUpper
  rw [String.toList_ofList, List.flatMap_assoc]
  congr 1
  refine List.flatMap_congr fun c _ => ?_
  have hchars : (upperOf c).flatMap upperOf = (upperOf c).flatMap fun d => [d] :=
    List.flatMap_congr fun d hd => upperOf_of_mem hd
  rw [hchars, List.flatMap_singleton']

/-! ## Lower case without capitals -/

/-- Every letter that a run moves to lower case ends up behind the capital letters of ASCII. -/
theorem lowerRuns_high : lowerRuns.all (fun run => Nat.blt 0x5a run.low &&
    (run.high.blt 0xd800 || Nat.blt 0xdfff run.low && run.high.blt 0x110000)) = true := by
  decide +kernel

/-- Such a letter is no capital of ASCII. -/
theorem CaseRun.lt_toNat_shift {run : CaseRun} (hmem : run ∈ lowerRuns) {code : Nat}
    (hmoves : run.moves code = true) :
    0x5a < (Char.ofNat ((code : Int) + run.shift).toNat).toNat := by
  have hbounds := List.all_eq_true.1 lowerRuns_high run hmem
  unfold moves at hmoves
  unfold low high at hbounds
  simp only [Bool.or_eq_true, Bool.and_eq_true, Nat.blt_eq, decide_eq_true_eq] at hmoves hbounds
  have hvalid : ((code : Int) + run.shift).toNat.isValidChar := by
    rcases hbounds.2 with hlow | hhigh
    · exact Or.inl (by omega)
    · exact Or.inr ⟨by omega, by omega⟩
  rw [toNat_ofNat hvalid]
  omega

/-- The lower case of a character has no capital letter of ASCII. -/
theorem not_capital_of_mem_lowerOf {c d : Char} (h : d ∈ lowerOf c) :
    d.toNat < 0x41 ∨ 0x5a < d.toNat := by
  unfold lowerOf at h
  split at h
  · rename_i hascii
    rw [List.mem_singleton.1 h]
    exact forall_ascii c hascii (by decide +kernel)
  · rename_i hascii
    split at h
    · rcases List.mem_cons.1 h with rfl | h
      · decide
      · rw [List.mem_singleton.1 h]
        decide
    · rw [List.mem_singleton.1 h, shiftCase]
      cases hfind : lowerRuns.find? (·.moves c.toNat) with
      | none =>
        simp only [Char.ofNat_toNat]
        omega
      | some run =>
        have hmoves : run.moves c.toNat = true := by simpa using List.find?_some hfind
        exact Or.inr (CaseRun.lt_toNat_shift (List.mem_of_find?_eq_some hfind) hmoves)

/-- Neither has a text in lower case, whatever stands before it. -/
theorem not_capital_of_mem_lowerAfter {cs before : List Char} {d : Char}
    (h : d ∈ lowerAfter before cs) : d.toNat < 0x41 ∨ 0x5a < d.toNat := by
  induction cs generalizing before with
  | nil => cases h
  | cons c cs ih =>
    rw [lowerAfter, List.mem_append] at h
    rcases h with hfirst | hrest
    · split at hfirst
      · split at hfirst
        · rw [List.mem_singleton.1 hfirst]
          decide
        · rw [List.mem_singleton.1 hfirst]
          decide
      · exact not_capital_of_mem_lowerOf hfirst
    · exact ih hrest

/-! ## Lower case of ASCII letters -/

/-- Lower case of an ASCII character is lower case in ASCII. -/
theorem lowerAfter_of_ascii {cs : List Char} (h : ∀ c ∈ cs, c.toNat < 0x80) (before : List Char) :
    lowerAfter before cs = cs.map Char.toLower := by
  induction cs generalizing before with
  | nil => rfl
  | cons c cs ih =>
    obtain ⟨hc, hcs⟩ := List.forall_mem_cons.1 h
    rw [lowerAfter, if_neg (by omega), lowerOf, if_pos hc, ih hcs]
    rfl

/-- Lower case in ASCII moves nothing but capital letters. -/
theorem toLower_cases (c : Char) : c.toLower = c ∨ (0x41 ≤ c.toNat ∧ c.toNat ≤ 0x5a) := by
  unfold Char.toLower
  split
  · rename_i hcapital
    exact Or.inr hcapital
  · exact Or.inl rfl

/-- Nothing is stripped where nothing can be. -/
theorem strip_eq_self {p : Char → Bool} {cs : List Char} (h : ∀ c ∈ cs, p c = false) :
    strip p cs = cs := by
  have hdrop : ∀ cs : List Char, (∀ c ∈ cs, p c = false) → cs.dropWhile p = cs := by
    intro cs h
    cases cs with
    | nil => rfl
    | cons c cs => exact List.dropWhile_cons_of_neg (by simp [h c List.mem_cons_self])
  have hreverse : ∀ c ∈ cs.reverse, p c = false := fun c hc => h c (List.mem_reverse.1 hc)
  rw [strip, hdrop cs h, hdrop cs.reverse hreverse, List.reverse_reverse]

/-- A word in any case is the word again when it is trimmed and put into lower case. -/
theorem toLower_trim_of_word {s word : String} (h : s.toList.map Char.toLower = word.toList)
    (hword : ∀ c ∈ word.toList, c.toNat < 0x80 ∧ isBlank c = false) : toLower (trim s) = word := by
  have hchars : ∀ c ∈ s.toList, c.toNat < 0x80 ∧ isBlank c = false := by
    intro c hc
    rcases toLower_cases c with hlower | ⟨hmin, hmax⟩
    · refine hword c ?_
      rw [← h, List.mem_map]
      exact ⟨c, hc, hlower⟩
    · refine ⟨by omega, ?_⟩
      rw [← Bool.not_eq_true]
      simp only [isBlank, isWhiteSpace, Bool.or_eq_true, Bool.and_eq_true, decide_eq_true_eq,
        beq_iff_eq]
      omega
  have hascii : ∀ c ∈ s.toList, c.toNat < 0x80 := fun c hc => (hchars c hc).1
  rw [toLower, trim, String.toList_ofList, strip_eq_self fun c hc => (hchars c hc).2,
    lowerAfter_of_ascii hascii, h, String.ofList_toList]

end CardPayments.Text
