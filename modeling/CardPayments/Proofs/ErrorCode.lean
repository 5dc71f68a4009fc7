import CardPayments.ErrorCode
import Mathlib.Data.List.Forall2
import Mathlib.Data.List.TakeWhile

/-!
# Abbreviating the name of an exception class

A name is abbreviated by the indexes of its dots and by the lengths that are kept between them. That
comes to taking the name apart at its first dots, which can be done in one way only, to cutting the
leading segments and to joining what is left. The outcome is the name with as few leading segments
cut as make it fit, or with all of them where none of this helps. A cut name comes apart into the
cut segments, so abbreviating it again finds nothing left to do.
-/

namespace CardPayments

namespace DottedName

/-! ## Taking a name apart -/

/-- The segments before the first dots, at most `limit` of them, and what remains. -/
def segments : (limit : Nat) → List Char → List (List Char) × List Char
  | 0, cs => ([], cs)
  | limit + 1, cs =>
    match cs.dropWhile (· != '.') with
    | [] => ([], cs)
    | _ :: rest =>
      let (more, last) := segments limit rest
      (cs.takeWhile (· != '.') :: more, last)

/-- Segments and the last part, joined by dots. -/
def join (segments : List (List Char)) (last : List Char) : List Char :=
  segments.flatMap (· ++ ['.']) ++ last

/-- How a name comes apart at its first dots, of which no more than `maxDots` count. -/
structure Splits (name : List Char) (leading : List (List Char)) (last : List Char) : Prop where
  /-- The parts make up the name. -/
  joined : join leading last = name
  /-- No leading segment holds a dot. -/
  dotless : ∀ segment ∈ leading, '.' ∉ segment
  /-- As many dots separate segments as there are, or as count. -/
  number : leading.length = min maxDots (name.count '.')

@[simp] theorem join_nil (last : List Char) : join [] last = last := rfl

@[simp] theorem join_cons (segment : List Char) (leading : List (List Char)) (last : List Char) :
    join (segment :: leading) last = segment ++ '.' :: join leading last := by
  simp [join]

/-- The dots of a name are those between its segments and those of its last part. -/
theorem count_join {leading : List (List Char)} (h : ∀ segment ∈ leading, '.' ∉ segment)
    (last : List Char) : (join leading last).count '.' = leading.length + last.count '.' := by
  induction leading with
  | nil => simp
  | cons segment leading ih =>
    obtain ⟨hsegment, hleading⟩ := List.forall_mem_cons.1 h
    have hnone : segment.count '.' = 0 := List.count_eq_zero.2 hsegment
    rw [join_cons, List.count_append, List.count_cons_self, ih hleading, hnone,
      List.length_cons]
    omega

/-- A name without a dot is one part. -/
theorem segments_of_not_mem {cs : List Char} (h : '.' ∉ cs) (limit : Nat) :
    segments limit cs = ([], cs) := by
  cases limit with
  | zero => rfl
  | succ limit =>
    have hdrop : cs.dropWhile (· != '.') = [] := by
      rw [List.dropWhile_eq_nil_iff]
      intro c hc
      simpa using fun hdot : c = '.' => h (hdot ▸ hc)
    simp only [segments, hdrop]

/-- A name with a dot comes apart at its first one. -/
theorem segments_append {segment : List Char} (h : '.' ∉ segment) (limit : Nat)
    (rest : List Char) :
    segments (limit + 1) (segment ++ '.' :: rest) =
      (segment :: (segments limit rest).1, (segments limit rest).2) := by
  have hkeep : ∀ c ∈ segment, (c != '.') = true := by
    intro c hc
    simpa using fun hdot : c = '.' => h (hdot ▸ hc)
  have hdrop : (segment ++ '.' :: rest).dropWhile (· != '.') = '.' :: rest := by
    rw [List.dropWhile_append_of_pos hkeep, List.dropWhile_cons_of_neg (by simp)]
  have htake : (segment ++ '.' :: rest).takeWhile (· != '.') = segment := by
    rw [List.takeWhile_append_of_pos hkeep, List.takeWhile_cons_of_neg (by simp),
      List.append_nil]
  simp only [segments, hdrop, htake]

/-- How parts come apart while at most `limit` dots count. -/
inductive Apart : (limit : Nat) → List (List Char) → List Char → Prop
  /-- What remains is the last part when no further dot counts or none is left. -/
  | done {limit last} (h : limit = 0 ∨ '.' ∉ last) : Apart limit [] last
  /-- A dot that counts follows a segment. -/
  | next {limit segment leading last} (dotless : '.' ∉ segment) (rest : Apart limit leading last) :
      Apart (limit + 1) (segment :: leading) last

/-- Segments without dots come apart if as many dots separate them as there are, or as count. -/
theorem apart_of_number {leading : List (List Char)} (h : ∀ segment ∈ leading, '.' ∉ segment)
    {last : List Char} {limit : Nat}
    (hlimit : leading.length = min limit (leading.length + last.count '.')) :
    Apart limit leading last := by
  induction leading generalizing limit with
  | nil =>
    rw [List.length_nil, Nat.zero_add] at hlimit
    refine .done ?_
    rw [← List.count_eq_zero]
    omega
  | cons segment leading ih =>
    obtain ⟨hsegment, hleading⟩ := List.forall_mem_cons.1 h
    rw [List.length_cons] at hlimit
    cases limit with
    | zero => omega
    | succ limit => exact .next hsegment (ih hleading (by omega))

theorem Splits.apart {name : List Char} {leading : List (List Char)} {last : List Char}
    (h : Splits name leading last) : Apart maxDots leading last := by
  refine apart_of_number h.dotless ?_
  rw [← count_join h.dotless, h.joined]
  exact h.number

/-- Parts that are joined come apart again. -/
theorem Apart.segments_join {limit : Nat} {leading : List (List Char)} {last : List Char}
    (h : Apart limit leading last) : segments limit (join leading last) = (leading, last) := by
  induction h with
  | done h =>
    rcases h with rfl | hdotless
    · rfl
    · exact segments_of_not_mem hdotless _
  | next dotless _ ih => rw [join_cons, segments_append dotless, ih]

/-- There is one way to take a name apart, and this is it. -/
theorem Splits.segments_eq {name : List Char} {leading : List (List Char)} {last : List Char}
    (h : Splits name leading last) : segments maxDots name = (leading, last) := by
  rw [← h.joined]
  exact h.apart.segments_join

/-- Every name comes apart. -/
theorem exists_parts (limit : Nat) (cs : List Char) : ∃ leading last,
    join leading last = cs ∧ (∀ segment ∈ leading, '.' ∉ segment) ∧
      leading.length = min limit (cs.count '.') := by
  induction limit generalizing cs with
  | zero => exact ⟨[], cs, rfl, by simp, by simp⟩
  | succ limit ih =>
    by_cases hdot : '.' ∈ cs
    · obtain ⟨segment, rest, rfl, hsegment⟩ := List.eq_append_cons_of_mem hdot
      obtain ⟨leading, last, rfl, hdotless, hnumber⟩ := ih rest
      have hnone : segment.count '.' = 0 := List.count_eq_zero.2 hsegment
      refine ⟨segment :: leading, last, join_cons _ _ _, ?_, ?_⟩
      · exact List.forall_mem_cons.2 ⟨hsegment, hdotless⟩
      · rw [List.count_append, List.count_cons_self, hnone, List.length_cons, hnumber]
        omega
    · have hnone : cs.count '.' = 0 := List.count_eq_zero.2 hdot
      exact ⟨[], cs, rfl, by simp, by simp [hnone]⟩

theorem exists_splits (name : List Char) : ∃ leading last, Splits name leading last := by
  obtain ⟨leading, last, hjoined, hdotless, hnumber⟩ := exists_parts maxDots name
  exact ⟨leading, last, hjoined, hdotless, hnumber⟩

/-! ## Indexes and lengths -/

/-- Cuts segments to at most one letter while the name is too long by `excess`. -/
def cut : (excess : Int) → List (List Char) → List (List Char)
  | _, [] => []
  | excess, segment :: rest =>
    if 0 < excess then segment.take 1 :: cut (excess - (segment.length - 1 : Nat)) rest
    else segment :: rest

/-- Where the dots stand behind some segments, of which the first one begins at `start`. -/
def dotsAfter : (start : Nat) → List (List Char) → List Nat
  | _, [] => []
  | start, segment :: leading =>
    (start + segment.length) :: dotsAfter (start + segment.length + 1) leading

theorem dotIndexes_of_not_mem {cs : List Char} (h : '.' ∉ cs) (limit start : Nat) :
    dotIndexes limit start cs = [] := by
  induction cs generalizing start with
  | nil => cases limit <;> rfl
  | cons c cs ih =>
    obtain ⟨hc, hcs⟩ := not_or.1 (mt List.mem_cons.2 h)
    cases limit with
    | zero => rfl
    | succ limit => rw [dotIndexes, if_neg (Ne.symm hc), ih hcs]

/-- The first dot stands behind the first segment. -/
theorem dotIndexes_append {segment : List Char} (h : '.' ∉ segment) (limit start : Nat)
    (rest : List Char) :
    dotIndexes (limit + 1) start (segment ++ '.' :: rest) =
      (start + segment.length) :: dotIndexes limit (start + segment.length + 1) rest := by
  induction segment generalizing start with
  | nil =>
    rw [List.nil_append, dotIndexes, if_pos rfl]
    rfl
  | cons c segment ih =>
    obtain ⟨hc, hsegment⟩ := not_or.1 (mt List.mem_cons.2 h)
    rw [List.cons_append, dotIndexes, if_neg (Ne.symm hc), ih hsegment, List.length_cons,
      Nat.add_right_comm, Nat.add_assoc start]

/-- The dots of parts that are joined stand behind the segments. -/
theorem Apart.dotIndexes_join {limit : Nat} {leading : List (List Char)} {last : List Char}
    (h : Apart limit leading last) (start : Nat) :
    dotIndexes limit start (join leading last) = dotsAfter start leading := by
  induction h generalizing start with
  | done h =>
    rcases h with rfl | hdotless
    · rw [dotIndexes, dotsAfter]
    · exact dotIndexes_of_not_mem hdotless _ _
  | next dotless _ ih => rw [join_cons, dotIndexes_append dotless, ih, dotsAfter]

/-- Nothing is cut of a name that is not too long. -/
theorem keptLengths_of_not_pos {excess : Int} (h : ¬ 0 < excess) (start : Nat)
    (leading : List (List Char)) :
    keptLengths excess start (dotsAfter start leading) = leading.map (·.length + 1) := by
  induction leading generalizing start with
  | nil => rfl
  | cons segment leading ih =>
    simp only [dotsAfter, keptLengths, if_neg h, Nat.add_sub_cancel_left, Nat.sub_self,
      Int.natCast_zero, Int.sub_zero, ih, List.map_cons]

/-- The lengths that are kept are those of the cut segments. -/
theorem keptLengths_dotsAfter (excess : Int) (start : Nat) (leading : List (List Char)) :
    keptLengths excess start (dotsAfter start leading) =
      (cut excess leading).map (·.length + 1) := by
  induction leading generalizing excess start with
  | nil => rfl
  | cons segment leading ih =>
    by_cases hexcess : 0 < excess
    · have hkept : (if segment.length < 1 then segment.length else 1) =
          (segment.take 1).length := by
        rw [List.length_take]
        split <;> omega
      have hcut : segment.length - (segment.take 1).length = segment.length - 1 := by
        rw [List.length_take]
        omega
      simp only [dotsAfter, keptLengths, if_pos hexcess, Nat.add_sub_cancel_left, hkept, hcut, ih,
        cut, List.map_cons]
    · rw [keptLengths_of_not_pos hexcess, cut, if_neg hexcess]

/-- A cut segment is the beginning of the segment. -/
theorem isPrefix_cut (excess : Int) (leading : List (List Char)) :
    List.Forall₂ (· <+: ·) (cut excess leading) leading := by
  induction leading generalizing excess with
  | nil => exact .nil
  | cons segment leading ih =>
    rw [cut]
    split
    · exact .cons (List.take_prefix 1 segment) (ih _)
    · exact List.forall₂_same.2 fun segment _ => List.prefix_rfl

/-- The last dot stands before the last part. -/
theorem getLastD_dotsAfter {leading : List (List Char)} (h : leading ≠ []) (start d : Nat)
    (last : List Char) :
    (dotsAfter start leading).getLastD d + (last.length + 1) =
      start + (join leading last).length := by
  induction leading generalizing start d with
  | nil => exact absurd rfl h
  | cons segment leading ih =>
    rw [dotsAfter, List.getLastD_cons, join_cons, List.length_append, List.length_cons]
    by_cases hleading : leading = []
    · subst hleading
      rw [dotsAfter, List.getLastD_nil, join_nil]
      omega
    · rw [ih hleading]
      omega

/-- The pieces between the dots, as long as beginnings of the segments, make up these beginnings,
joined by dots. -/
theorem pieces_eq_join {leading kept : List (List Char)}
    (h : List.Forall₂ (· <+: ·) kept leading) (before last : List Char) :
    let name := before ++ join leading last
    let lengths := kept.map (·.length + 1) ++ [last.length + 1]
    (name.drop before.length).take (lengths.headD 0 - 1) ++
        ((dotsAfter before.length leading).zip lengths.tail).flatMap
          (fun (dot, length) => (name.drop dot).take length) =
      join kept last := by
  induction h generalizing before with
  | nil => simp [dotsAfter]
  | @cons part segment kept leading hpart hrest ih =>
    have hafter := ih (before ++ segment ++ ['.'])
    have hname : before ++ segment ++ ['.'] ++ join leading last =
        before ++ join (segment :: leading) last := by
      simp only [join_cons, List.append_assoc, List.singleton_append]
    have hstart : (before ++ segment ++ ['.']).length = before.length + segment.length + 1 := by
      simp only [List.length_append, List.length_singleton]
    -- Every length but the first counts the dot before its piece.
    obtain ⟨length, lengths, hlengths⟩ : ∃ length lengths,
        kept.map (·.length + 1) ++ [last.length + 1] = (length + 1) :: lengths := by
      cases kept <;> exact ⟨_, _, rfl⟩
    dsimp only at hafter ⊢
    rw [hname, hlengths, hstart] at hafter
    rw [List.map_cons, List.cons_append, hlengths, dotsAfter]
    have hfirst : ((before ++ join (segment :: leading) last).drop before.length).take
        part.length = part := by
      obtain ⟨more, rfl⟩ := hpart
      simp only [List.drop_left, join_cons, List.append_assoc, List.take_left]
    have hdot : (before ++ join (segment :: leading) last).drop (before.length + segment.length) =
        '.' :: (before ++ join (segment :: leading) last).drop
          (before.length + segment.length + 1) := by
      rw [join_cons, ← List.append_assoc, ← List.length_append, List.drop_left,
        List.drop_length_add_append]
      rfl
    simp only [List.headD_cons, List.tail_cons, List.zip_cons_cons, List.flatMap_cons,
      Nat.add_sub_cancel] at hafter ⊢
    rw [hfirst, hdot, List.take_succ_cons, join_cons part, List.cons_append, hafter]

/-- Abbreviating a name comes to cutting its segments and joining them again. -/
theorem abbreviateChars_eq (target : Int) (name : List Char) :
    abbreviateChars target name =
      join (cut (name.length - target) (segments maxDots name).1) (segments maxDots name).2 := by
  obtain ⟨leading, last, h⟩ := exists_splits name
  have hdots : dotIndexes maxDots 0 name = dotsAfter 0 leading := by
    rw [← h.joined]
    exact h.apart.dotIndexes_join 0
  rw [h.segments_eq]
  unfold abbreviateChars
  rw [hdots]
  by_cases hleading : leading = []
  · subst hleading
    exact h.joined.symm
  · have hsome : (dotsAfter 0 leading).isEmpty = false := by
      cases leading with
      | nil => exact absurd rfl hleading
      | cons segment leading => rfl
    have hlast : name.length - (dotsAfter 0 leading).getLastD 0 = last.length + 1 := by
      have hlength := getLastD_dotsAfter hleading 0 0 last
      rw [h.joined] at hlength
      omega
    have hpieces := pieces_eq_join (isPrefix_cut (name.length - target) leading) [] last
    rw [List.nil_append, h.joined] at hpieces
    dsimp only
    rw [if_neg (Bool.eq_false_iff.1 hsome), segmentLengths, keptLengths_dotsAfter, hlast]
    exact hpieces

/-! ## Cutting segments -/

/-- The first `k` segments cut to at most one letter each. -/
def cutFirst (k : Nat) (leading : List (List Char)) : List (List Char) :=
  (leading.take k).map (·.take 1) ++ leading.drop k

/-- The name with its first `k` segments cut. -/
def shortened (k : Nat) (leading : List (List Char)) (last : List Char) : List Char :=
  join (cutFirst k leading) last

/-- How many segments are cut: as few as make the name fit, or all where this is never enough. -/
structure Fewest (target : Int) (leading : List (List Char)) (last : List Char) (k : Nat) :
    Prop where
  /-- There are so many segments. -/
  le : k ≤ leading.length
  /-- With fewer cuts the name is too long. -/
  long : ∀ j < k, target < (shortened j leading last).length
  /-- With so many it fits, unless no segment is left. -/
  fits : k < leading.length → ((shortened k leading last).length : Int) ≤ target

@[simp] theorem cutFirst_zero (leading : List (List Char)) : cutFirst 0 leading = leading := rfl

@[simp] theorem cutFirst_nil (k : Nat) : cutFirst k [] = [] := by simp [cutFirst]

@[simp] theorem cutFirst_succ_cons (k : Nat) (segment : List Char) (leading : List (List Char)) :
    cutFirst (k + 1) (segment :: leading) = segment.take 1 :: cutFirst k leading := by
  simp [cutFirst]

theorem length_cutFirst (k : Nat) (leading : List (List Char)) :
    (cutFirst k leading).length = leading.length := by
  simp only [cutFirst, List.length_append, List.length_map, List.length_take, List.length_drop]
  omega

/-- Cutting brings no dot into a segment. -/
theorem dotless_cutFirst {leading : List (List Char)} (h : ∀ segment ∈ leading, '.' ∉ segment)
    (k : Nat) : ∀ segment ∈ cutFirst k leading, '.' ∉ segment := by
  intro segment hsegment
  rw [cutFirst, List.mem_append, List.mem_map] at hsegment
  rcases hsegment with ⟨whole, hwhole, rfl⟩ | hkept
  · exact fun hdot => h whole (List.mem_of_mem_take hwhole) (List.mem_of_mem_take hdot)
  · exact h segment (List.mem_of_mem_drop hkept)

/-- A name with cut segments comes apart into these. -/
theorem Splits.shortened {name : List Char} {leading : List (List Char)} {last : List Char}
    (h : Splits name leading last) (k : Nat) :
    Splits (DottedName.shortened k leading last) (cutFirst k leading) last := by
  have hdotless := dotless_cutFirst h.dotless k
  refine ⟨rfl, hdotless, ?_⟩
  rw [DottedName.shortened, count_join hdotless, length_cutFirst, ← count_join h.dotless, h.joined]
  exact h.number

/-- How many characters are lost with the first `k` segments cut. -/
def saved : Nat → List (List Char) → Nat
  | 0, _ => 0
  | _ + 1, [] => 0
  | k + 1, segment :: leading => segment.length - 1 + saved k leading

@[simp] theorem saved_zero (leading : List (List Char)) : saved 0 leading = 0 := rfl

@[simp] theorem saved_nil (k : Nat) : saved k [] = 0 := by cases k <;> rfl

@[simp] theorem saved_succ_cons (k : Nat) (segment : List Char) (leading : List (List Char)) :
    saved (k + 1) (segment :: leading) = segment.length - 1 + saved k leading := rfl

/-- What is lost is missing from the length. -/
theorem length_shortened (k : Nat) (leading : List (List Char)) (last : List Char) :
    (shortened k leading last).length + saved k leading = (join leading last).length := by
  unfold shortened
  induction leading generalizing k with
  | nil => simp
  | cons segment leading ih =>
    cases k with
    | zero => simp
    | succ k =>
      have hrest := ih k
      have hcut : (segment.take 1).length + (segment.length - 1) = segment.length := by
        rw [List.length_take]
        omega
      simp only [cutFirst_succ_cons, join_cons, saved_succ_cons, List.length_append,
        List.length_cons]
      omega

/-- The budget is used up by cutting the fewest segments that make up for it, or all. -/
theorem exists_cut_eq (excess : Int) (leading : List (List Char)) : ∃ k ≤ leading.length,
    cut excess leading = cutFirst k leading ∧ (∀ j < k, (saved j leading : Int) < excess) ∧
      (k < leading.length → excess ≤ saved k leading) := by
  induction leading generalizing excess with
  | nil => exact ⟨0, Nat.le_refl 0, rfl, by simp, by simp⟩
  | cons segment leading ih =>
    by_cases hexcess : 0 < excess
    · obtain ⟨k, hk, hcut, hfew, hmany⟩ := ih (excess - (segment.length - 1 : Nat))
      refine ⟨k + 1, Nat.succ_le_succ hk, ?_, ?_, ?_⟩
      · rw [cut, if_pos hexcess, hcut, cutFirst_succ_cons]
      · intro j hj
        cases j with
        | zero => exact hexcess
        | succ j =>
          have hrest := hfew j (Nat.lt_of_succ_lt_succ hj)
          rw [saved_succ_cons]
          omega
      · intro hlt
        have hrest := hmany (Nat.lt_of_succ_lt_succ hlt)
        rw [saved_succ_cons]
        omega
    · refine ⟨0, Nat.zero_le _, ?_, by simp, ?_⟩
      · rw [cut, if_neg hexcess, cutFirst_zero]
      · intro _
        rw [saved_zero]
        omega

/-- An abbreviated name is the name with the fewest segments cut that make it fit. -/
theorem exists_abbreviateChars_eq (target : Int) {name : List Char} {leading : List (List Char)}
    {last : List Char} (h : Splits name leading last) : ∃ k, Fewest target leading last k ∧
      abbreviateChars target name = shortened k leading last := by
  obtain ⟨k, hk, hcut, hfew, hmany⟩ := exists_cut_eq (name.length - target) leading
  have hlength : ∀ j, (shortened j leading last).length + saved j leading = name.length := by
    intro j
    rw [length_shortened, h.joined]
  refine ⟨k, ⟨hk, fun j hj => ?_, fun hlt => ?_⟩, ?_⟩
  · have hj' := hfew j hj
    have hj'' := hlength j
    omega
  · have hk' := hmany hlt
    have hk'' := hlength k
    omega
  · rw [abbreviateChars_eq, h.segments_eq, hcut]
    rfl

/-! ## What abbreviating leaves alone -/

/-- A name that fits needs no cut. -/
theorem Fewest.eq_zero {target : Int} {leading : List (List Char)} {last : List Char} {k : Nat}
    (h : Fewest target leading last k) (hfits : ((join leading last).length : Int) ≤ target) :
    k = 0 := by
  by_contra hk
  have hlong := h.long 0 (Nat.pos_of_ne_zero hk)
  rw [shortened, cutFirst_zero] at hlong
  omega

theorem abbreviateChars_of_fits {target : Int} {name : List Char}
    (hfits : (name.length : Int) ≤ target) : abbreviateChars target name = name := by
  obtain ⟨leading, last, h⟩ := exists_splits name
  obtain ⟨k, hk, heq⟩ := exists_abbreviateChars_eq target h
  have hzero : k = 0 := hk.eq_zero (by rwa [h.joined])
  rw [heq, hzero, shortened, cutFirst_zero, h.joined]

theorem abbreviateChars_of_not_mem {name : List Char} (hdot : '.' ∉ name) (target : Int) :
    abbreviateChars target name = name := by
  rw [abbreviateChars_eq, segments_of_not_mem hdot]
  rfl

/-- Cutting removes no dot. -/
theorem count_abbreviateChars (target : Int) (name : List Char) :
    (abbreviateChars target name).count '.' = name.count '.' := by
  obtain ⟨leading, last, h⟩ := exists_splits name
  obtain ⟨k, -, heq⟩ := exists_abbreviateChars_eq target h
  rw [heq, shortened, count_join (dotless_cutFirst h.dotless k), length_cutFirst,
    ← count_join h.dotless, h.joined]

/-- Segments of at most one letter are not cut. -/
theorem cutFirst_of_short {leading : List (List Char)}
    (h : ∀ segment ∈ leading, segment.length ≤ 1) (k : Nat) : cutFirst k leading = leading := by
  have hkept : (leading.take k).map (·.take 1) = leading.take k := by
    refine (List.map_congr_left fun segment hsegment => ?_).trans (List.map_id _)
    exact List.take_of_length_le (h segment (List.mem_of_mem_take hsegment))
  rw [cutFirst, hkept, List.take_append_drop]

/-- An abbreviated name is not abbreviated any further: it fits, or all of its segments are cut. -/
theorem abbreviateChars_abbreviateChars (target : Int) (name : List Char) :
    abbreviateChars target (abbreviateChars target name) = abbreviateChars target name := by
  obtain ⟨leading, last, h⟩ := exists_splits name
  obtain ⟨k, hk, heq⟩ := exists_abbreviateChars_eq target h
  rw [heq]
  by_cases hlt : k < leading.length
  · exact abbreviateChars_of_fits (hk.fits hlt)
  · obtain ⟨k', -, heq'⟩ := exists_abbreviateChars_eq target (h.shortened k)
    have hall : ∀ segment ∈ cutFirst k leading, segment.length ≤ 1 := by
      intro segment hsegment
      rw [cutFirst, List.take_of_length_le (by omega), List.drop_of_length_le (by omega),
        List.append_nil, List.mem_map] at hsegment
      obtain ⟨whole, -, rfl⟩ := hsegment
      exact List.length_take_le 1 whole
    rw [heq', shortened, cutFirst_of_short hall]
    rfl

end DottedName

namespace ErrorCode

open DottedName

/-- A limit that is not negative keeps as many characters. -/
theorem truncate_natCast (limit : Nat) (s : String) :
    truncate limit s = String.ofList (s.toList.take limit) := by
  unfold truncate
  by_cases hfits : s.toList.length ≤ limit
  · rw [if_pos (Int.ofNat_le.2 hfits), List.take_of_length_le hfits, String.ofList_toList]
  · rw [if_neg (mt Int.ofNat_le.1 hfits), if_pos (Int.natCast_nonneg limit), Int.toNat_natCast]

/-- An outcome with neither a code nor a result has the code of its exception class: the name as it
is where it fits, else the beginning of the abbreviated name. -/
theorem ofOutcome_exceptionClass (data : Bag) :
    ofOutcome none data none = (data.text? Property.exceptionClass).map fun name =>
      if name.toList.length ≤ maxLength then name
      else String.ofList ((abbreviate maxLength name).toList.take maxLength) := by
  unfold ofOutcome exceptionClass
  rw [Option.none_or, Option.none_or, Option.map_map]
  congr 1
  funext name
  simp only [Function.comp, truncate_natCast]
  by_cases hfits : name.toList.length ≤ maxLength
  · rw [if_pos hfits, if_pos hfits, List.take_of_length_le hfits, String.ofList_toList]
  · rw [if_neg hfits, if_neg hfits]

/-- A name is abbreviated by cutting the fewest leading segments that make it fit. Nothing else of
it changes, abbreviating again changes nothing, and an error code without another source is the
name of the exception class, abbreviated and bluntly cut where it does not fit. -/
theorem abbreviates_greedily (target : Int) (name : String) :
    (∃ leading last k, Splits name.toList leading last ∧ Fewest target leading last k ∧
      (abbreviate target name).toList = shortened k leading last) ∧
    ((name.toList.length : Int) ≤ target ∨ '.' ∉ name.toList → abbreviate target name = name) ∧
    (abbreviate target name).toList.count '.' = name.toList.count '.' ∧
    abbreviate target (abbreviate target name) = abbreviate target name ∧
    ∀ data : Bag, ofOutcome none data none =
      (data.text? Property.exceptionClass).map fun name =>
        if name.toList.length ≤ 32 then name
        else String.ofList ((abbreviate 32 name).toList.take 32) := by
  refine ⟨?_, ?_, ?_, ?_, ofOutcome_exceptionClass⟩
  · obtain ⟨leading, last, h⟩ := exists_splits name.toList
    obtain ⟨k, hk, heq⟩ := exists_abbreviateChars_eq target h
    exact ⟨leading, last, k, h, hk, by rw [abbreviate, String.toList_ofList, heq]⟩
  · rintro (hfits | hdot)
    · rw [abbreviate, abbreviateChars_of_fits hfits, String.ofList_toList]
    · rw [abbreviate, abbreviateChars_of_not_mem hdot, String.ofList_toList]
  · rw [abbreviate, String.toList_ofList, count_abbreviateChars]
  · unfold abbreviate
    rw [String.toList_ofList, abbreviateChars_abbreviateChars]

example : abbreviate 32 "com.mycompany.SomeLongExceptionClassName" =
    "c.m.SomeLongExceptionClassName" := by decide +kernel
example : abbreviate 3 "..ab.c.d.e.f.g.h.i.j.k.l.m.n.o.pq.Last" =
    "..a.c.d.e.f.g.h.i.j.k.l.m.n.o.pq.Last" := by decide +kernel

end ErrorCode

end CardPayments
