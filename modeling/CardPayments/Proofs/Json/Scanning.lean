import CardPayments.Json.Reader
import CardPayments.Proofs.Json.Document

/-!
# Scanning documents

The scanner goes through a text lexeme by lexeme. Each lexeme either becomes one token, whatever
comes behind it, or ends the scan for good. A word is the exception: it ends where something else
begins, and in a document nothing but marks and quoted texts follows a word.
-/

namespace CardPayments.Json

namespace Scanner

/-- Going on in the middle of a token, unless there is no going on. -/
def goOn (d : Dialect) (tokens : List Token) (cs : List Char) : Option Scan → List Token × Bool
  | some scan => run d ⟨scan, tokens⟩ cs
  | none => (tokens.reverse, false)

variable {d : Dialect} {tokens : List Token} {cs : List Char}

/-- A character inside a quoted text that does not end it moves the scan on. -/
theorem run_quoted_cons {scan : Scan} {c : Char} (hbetween : scan ≠ .between)
    (hword : ∀ read, scan ≠ .word read) (hend : c = '"' → quotedEnd? d scan = none) :
    run d ⟨scan, tokens⟩ (c :: cs) = goOn d tokens cs (advance d c scan) := by
  have hnone : (if c = '"' then quotedEnd? d scan else none) = none := by
    split
    · exact hend ‹_›
    · rfl
  have hstep : step d ⟨scan, tokens⟩ c = (advance d c scan).map (⟨·, tokens⟩) := by
    cases scan with
    | between => exact absurd rfl hbetween
    | word read => exact absurd rfl (hword read)
    | quoted | escape | code | half | halfEscape | secondHalf =>
      unfold step
      simp only
      rw [hnone]
  unfold run
  rw [hstep]
  cases advance d c scan <;> rfl

/-- A hexadecimal digit in either case has the value of the digit. -/
theorem hexValue?_of_isDigit {c : Char} {n : Nat} (hn : n < 16)
    (h : Stroke.IsDigit c (Text.hexDigit n)) : hexValue? c = some n := by
  have hdigit : ∀ m : Fin 16, hexValue? (Text.hexDigit m) = some m.val ∧
      hexValue? (Text.hexDigit m).toUpper = some m.val := by decide
  rcases h with rfl | rfl
  · exact (hdigit ⟨n, hn⟩).1
  · exact (hdigit ⟨n, hn⟩).2

/-- The four digits of a code give the code. `scan` counts the digits of one of the two halves. -/
theorem run_digits {scan : Nat → Nat → Scan} {finish : Nat → Option Scan}
    (hbetween : ∀ i v, scan i v ≠ .between) (hword : ∀ i v read, scan i v ≠ .word read)
    (hend : ∀ i v, quotedEnd? d (scan i v) = none)
    (hadvance : ∀ c i v, advance d c (scan i v) = do
      let digit ← hexValue? c
      if i < 3 then some (scan (i + 1) (16 * v + digit)) else finish (16 * v + digit))
    {n : Nat} {digits : List Char} (hn : n < 0x10000)
    (h : List.Forall₂ Stroke.IsDigit digits (Text.hexDigits 4 n)) :
    run d ⟨scan 0 0, tokens⟩ (digits ++ cs) = goOn d tokens cs (finish n) := by
  have hone : ∀ {i v c m}, m < 16 → Stroke.IsDigit c (Text.hexDigit m) → ∀ {cs : List Char},
      run d ⟨scan i v, tokens⟩ (c :: cs) = goOn d tokens cs
        (if i < 3 then some (scan (i + 1) (16 * v + m)) else finish (16 * v + m)) :=
    fun {i v c m} hm hc {cs} => by
      rw [run_quoted_cons (hbetween i v) (hword i v) fun _ => hend i v, hadvance,
        hexValue?_of_isDigit hm hc]
      rfl
  have hdigits : Text.hexDigits 4 n = [Text.hexDigit (n / 16 / 16 / 16 % 16),
      Text.hexDigit (n / 16 / 16 % 16), Text.hexDigit (n / 16 % 16), Text.hexDigit (n % 16)] := rfl
  rw [hdigits] at h
  obtain - | ⟨ha, - | ⟨hb, - | ⟨hc, - | ⟨he, - | _⟩⟩⟩⟩ := h
  have hcode : 16 * (16 * (16 * (16 * 0 + n / 16 / 16 / 16 % 16) + n / 16 / 16 % 16) +
      n / 16 % 16) + n % 16 = n := by omega
  simp only [List.cons_append, List.nil_append]
  rw [hone (Nat.mod_lt _ (by decide)) ha, if_pos (by decide), goOn,
    hone (Nat.mod_lt _ (by decide)) hb, if_pos (by decide), goOn,
    hone (Nat.mod_lt _ (by decide)) hc, if_pos (by decide), goOn,
    hone (Nat.mod_lt _ (by decide)) he, if_neg (by decide), hcode]

/-! ## Quoted texts -/

/-- Going on behind a token, if there is one. -/
def after (tokens : List Token) (cs : List Char) : Option Token → List Token × Bool
  | some token => run .strict ⟨.between, token :: tokens⟩ cs
  | none => (tokens.reverse, false)

/-- The token of a quoted text, the rest of which stands for these characters. -/
def quotedToken? (read : Quoted) (written : Option (List Char)) : Option Token :=
  written.map fun written => .quoted (read.reverse ++ written.map .char)

/-- A character that is read and a character to come are the same to the token. -/
theorem quotedToken?_map (read : Quoted) (c : Char) (written : Option (List Char)) :
    quotedToken? read (written.map (c :: ·)) = quotedToken? (.char c :: read) written := by
  cases written <;> simp [quotedToken?]

/-- Escapes are read as they are meant, and none of them is a code. -/
theorem takeEscape_of_mem {letter c : Char} (h : (letter, c) ∈ Stroke.escapes) (read : Quoted) :
    takeEscape letter read = some (.quoted (.char c :: read)) := by
  have hall : ∀ e ∈ Stroke.escapes, e.1 ≠ 'u' ∧ escaped? e.1 = some e.2 := by decide
  obtain ⟨hcode, hescaped⟩ := hall _ h
  simp only at hcode hescaped
  rw [takeEscape, if_neg hcode, hescaped]
  rfl

section
variable (read : Quoted)

theorem run_plain {c : Char} (h : (Stroke.plain c).IsLegal) :
    run .strict ⟨.quoted read, tokens⟩ (c :: cs) =
      run .strict ⟨.quoted (.char c :: read), tokens⟩ cs := by
  obtain ⟨hcontrol, hquote, hback⟩ := h
  rw [run_quoted_cons (by simp) (by simp) fun hc => absurd hc hquote]
  simp only [advance, takeQuoted, if_neg hback, if_neg (Nat.not_lt.2 hcontrol), goOn]

theorem run_backslash : run .strict ⟨.quoted read, tokens⟩ ('\\' :: cs) =
    run .strict ⟨.escape read, tokens⟩ cs := by
  rw [run_quoted_cons (by simp) (by simp) (by simp)]
  rfl

theorem run_escape {letter c : Char} (h : (Stroke.escape letter c).IsLegal) :
    run .strict ⟨.quoted read, tokens⟩ ('\\' :: letter :: cs) =
      run .strict ⟨.quoted (.char c :: read), tokens⟩ cs := by
  rw [run_backslash, run_quoted_cons (by simp) (by simp) fun _ => rfl, advance,
    takeEscape_of_mem h, goOn]

theorem run_code {n : Nat} {digits : List Char} (h : (Stroke.code n digits).IsLegal) :
    run .strict ⟨.quoted read, tokens⟩ ('\\' :: 'u' :: (digits ++ cs)) =
      goOn .strict tokens cs (finishCode .strict read n) := by
  rw [run_backslash, run_quoted_cons (by simp) (by simp) fun _ => rfl]
  exact run_digits (by simp) (by simp) (fun _ _ => rfl) (fun _ _ _ => rfl) h.1 h.2

/-- A second code completes a pair or ends the scan. -/
theorem run_secondHalf (high : Nat) {m : Nat} {digits : List Char}
    (h : (Stroke.code m digits).IsLegal) :
    run .strict ⟨.half read high, tokens⟩ ('\\' :: 'u' :: (digits ++ cs)) =
      goOn .strict tokens cs (finishSecond .strict read high m) := by
  rw [run_quoted_cons (by simp) (by simp) fun _ => rfl]
  change run .strict ⟨.halfEscape read high, tokens⟩ ('u' :: (digits ++ cs)) = _
  rw [run_quoted_cons (by simp) (by simp) fun _ => rfl]
  exact run_digits (by simp) (by simp) (fun _ _ => rfl) (fun _ _ _ => rfl) h.1 h.2

/-- A complete code is a character, or the first half of a pair; a second half ends the scan. -/
theorem finishCode_strict (read : Quoted) (n : Nat) :
    finishCode .strict read n =
      if n < 0xd800 ∨ 0xe000 ≤ n then some (.quoted (.char (Char.ofNat n) :: read))
      else if n < 0xdc00 then some (.half read n) else none := by
  have hhigh : isHigh n = true ↔ 0xd800 ≤ n ∧ n < 0xdc00 := by simp [isHigh]
  have hlow : isLow n = true ↔ 0xdc00 ≤ n ∧ n < 0xe000 := by simp [isLow]
  unfold finishCode
  simp only [hhigh, hlow]
  split_ifs <;> first | rfl | omega

/-- A complete second code completes the pair if it is a second half. -/
theorem finishSecond_strict (read : Quoted) (high m : Nat) :
    finishSecond .strict read high m =
      if 0xdc00 ≤ m ∧ m < 0xe000 then some (.quoted (.char (joinHalves high m) :: read))
      else none := by
  have hlow : isLow m = true ↔ 0xdc00 ≤ m ∧ m < 0xe000 := by simp [isLow]
  unfold finishSecond
  simp only [hlow]
  rfl

/-- Anything but a code behind a first half ends the scan: the end of the text, a character, or
another escape. -/
theorem run_half (high : Nat) {strokes : List Stroke} (hlegal : ∀ stroke ∈ strokes, stroke.IsLegal)
    (hcode : ∀ m digits rest, strokes ≠ .code m digits :: rest) :
    run .strict ⟨.half read high, tokens⟩ (strokes.flatMap Stroke.text ++ '"' :: cs) =
      (tokens.reverse, false) := by
  have hback : ∀ {c : Char} {cs : List Char}, c ≠ '\\' →
      run .strict ⟨.half read high, tokens⟩ (c :: cs) = (tokens.reverse, false) := by
    intro c cs hc
    rw [run_quoted_cons (by simp) (by simp) fun _ => rfl]
    simp only [advance, if_neg hc, leaveHalf]
    rfl
  cases strokes with
  | nil => exact hback (by decide)
  | cons stroke rest =>
    have hstroke := hlegal stroke List.mem_cons_self
    cases stroke with
    | plain c => exact hback hstroke.2.2
    | code m digits => exact absurd rfl (hcode m digits rest)
    | escape letter c =>
      have hletter : letter ≠ 'u' :=
        (by decide : ∀ e ∈ Stroke.escapes, e.1 ≠ 'u') (letter, c) hstroke
      change run .strict ⟨.half read high, tokens⟩ ('\\' :: letter :: _) = _
      rw [run_quoted_cons (by simp) (by simp) fun _ => rfl]
      change run .strict ⟨.halfEscape read high, tokens⟩ (letter :: _) = _
      rw [run_quoted_cons (by simp) (by simp) fun _ => rfl]
      simp only [advance, if_neg hletter, leaveHalf]
      rfl

end

/-- A quoted text gives the token of the text that is written, or ends the scan. -/
theorem run_strokes {strokes : List Stroke} (hlegal : ∀ stroke ∈ strokes, stroke.IsLegal)
    (read : Quoted) :
    run .strict ⟨.quoted read, tokens⟩ (strokes.flatMap Stroke.text ++ '"' :: cs) =
      after tokens cs (quotedToken? read (Stroke.read? strokes)) := by
  fun_induction Stroke.read? strokes generalizing read with
  | case1 => simp [quotedToken?, after, run, step, quotedEnd?]
  | case2 c rest ih =>
    obtain ⟨hstroke, hrest⟩ := List.forall_mem_cons.1 hlegal
    rw [quotedToken?_map, ← ih hrest]
    exact run_plain read hstroke
  | case3 letter c rest ih =>
    obtain ⟨hstroke, hrest⟩ := List.forall_mem_cons.1 hlegal
    rw [quotedToken?_map, ← ih hrest]
    exact run_escape read hstroke
  | case4 n digits rest hn ih =>
    obtain ⟨hstroke, hrest⟩ := List.forall_mem_cons.1 hlegal
    rw [quotedToken?_map, ← ih hrest, List.flatMap_cons, List.append_assoc]
    refine (run_code read hstroke).trans ?_
    rw [finishCode_strict, if_pos hn, goOn]
  | case5 n digits hn m more rest hpair ih =>
    obtain ⟨hstroke, hmore⟩ := List.forall_mem_cons.1 hlegal
    obtain ⟨hsecond, hrest⟩ := List.forall_mem_cons.1 hmore
    rw [quotedToken?_map, ← ih hrest, List.flatMap_cons, List.flatMap_cons, List.append_assoc,
      List.append_assoc]
    refine (run_code read hstroke).trans ?_
    rw [finishCode_strict, if_neg hn, if_pos hpair.1, goOn]
    refine (run_secondHalf read n hsecond).trans ?_
    rw [finishSecond_strict, if_pos hpair.2, goOn]
    rfl
  | case6 n digits hn m more rest hpair =>
    obtain ⟨hstroke, hmore⟩ := List.forall_mem_cons.1 hlegal
    have hsecond := hmore _ List.mem_cons_self
    rw [List.flatMap_cons, List.flatMap_cons, List.append_assoc, List.append_assoc]
    refine (run_code read hstroke).trans ?_
    by_cases hfirst : n < 0xdc00
    · rw [finishCode_strict, if_neg hn, if_pos hfirst, goOn]
      refine (run_secondHalf read n hsecond).trans ?_
      rw [finishSecond_strict, if_neg fun hm => hpair ⟨hfirst, hm⟩]
      rfl
    · rw [finishCode_strict, if_neg hn, if_neg hfirst]
      rfl
  | case7 n digits rest hn hcode =>
    obtain ⟨hstroke, hrest⟩ := List.forall_mem_cons.1 hlegal
    rw [List.flatMap_cons, List.append_assoc]
    refine (run_code read hstroke).trans ?_
    by_cases hfirst : n < 0xdc00
    · rw [finishCode_strict, if_neg hn, if_pos hfirst, goOn]
      exact run_half read n hrest hcode
    · rw [finishCode_strict, if_neg hn, if_neg hfirst]
      rfl

end Scanner

/-! ## Lexemes -/

namespace Lexeme

/-- The token of a lexeme, if it has one. -/
def token? : Lexeme → Option Token
  | .openTable => some .openTable
  | .closeTable => some .closeTable
  | .openList => some .openList
  | .closeList => some .closeList
  | .colon => some .colon
  | .comma => some .comma
  | .quoted strokes => (Stroke.read? strokes).map fun cs => .quoted (cs.map .char)
  | .word cs => (readWord .strict cs).map .scalar

/-- Whether a lexeme is a word. -/
def IsWord : Lexeme → Prop
  | .word _ => True
  | _ => False

/-- No word follows at once on a word. -/
def Parted : List Lexeme → Prop
  | [] => True
  | lexeme :: rest => (lexeme.IsWord → ∀ next ∈ rest.head?, ¬ next.IsWord) ∧ Parted rest

/-- The tokens up to the first lexeme that has none, and whether they are all. -/
def tokens : List Lexeme → List Token × Bool
  | [] => ([], true)
  | lexeme :: rest =>
    match lexeme.token? with
    | some token => (token :: (tokens rest).1, (tokens rest).2)
    | none => ([], false)

end Lexeme

namespace Scanner

variable {tokens : List Token} {cs : List Char}

/-- Blanks are passed over. -/
theorem run_blanks {blanks : List Char} (h : ∀ c ∈ blanks, isSpace c) :
    run .strict ⟨.between, tokens⟩ (blanks ++ cs) = run .strict ⟨.between, tokens⟩ cs := by
  induction blanks with
  | nil => rfl
  | cons c blanks ih =>
    obtain ⟨hc, hblanks⟩ := List.forall_mem_cons.1 h
    rw [List.cons_append, run, step, start, if_pos hc]
    exact ih hblanks

/-- Whether a character ends a word: a blank, a mark or a quotation mark. -/
def EndsWord (c : Char) : Prop := isSpace c ∨ c ∈ ['\x7b', '\x7d', '[', ']', ':', ',', '"']

/-- A character that ends a word is no part of one. -/
theorem EndsWord.not_isWord {c : Char} (h : EndsWord c) : ¬ isWord c := by
  rcases h with hspace | hmark
  · simp only [isSpace, Bool.or_eq_true, beq_iff_eq] at hspace
    rcases hspace with ((rfl | rfl) | rfl) | rfl <;> decide
  · simp only [List.mem_cons, List.not_mem_nil, or_false] at hmark
    rcases hmark with rfl | rfl | rfl | rfl | rfl | rfl | rfl <;> decide

/-- A character of a word begins one. -/
theorem start_word {c : Char} (h : isWord c) : start tokens c = some ⟨.word [c], tokens⟩ := by
  have hends : ¬ EndsWord c := fun hends => hends.not_isWord h
  simp only [EndsWord, not_or, List.mem_cons, List.not_mem_nil, not_false_eq_true, and_true]
    at hends
  simp [start, hends, h]

/-- A character that ends a word goes on from there. -/
theorem exists_start (tokens : List Token) {c : Char} (h : EndsWord c) :
    ∃ s, start tokens c = some s := by
  rcases h with hspace | hmark
  · exact ⟨_, if_pos hspace⟩
  · simp only [List.mem_cons, List.not_mem_nil, or_false] at hmark
    rcases hmark with rfl | rfl | rfl | rfl | rfl | rfl | rfl <;> exact ⟨_, rfl⟩

/-- Behind a word, the scan goes on as if the word had ended before. -/
theorem run_word_cons {c : Char} (read : List Char) (h : EndsWord c) :
    run .strict ⟨.word read, tokens⟩ (c :: cs) =
      after tokens (c :: cs) ((readWord .strict read.reverse).map .scalar) := by
  have hword : ¬ isWord c := h.not_isWord
  cases hread : readWord .strict read.reverse with
  | none => simp [run, step, after, hread, hword]
  | some v =>
    obtain ⟨s, hs⟩ := exists_start (.scalar v :: tokens) h
    simp [run, step, after, hread, hword, hs]

/-- The rest of a word is read up to the end of the text or to what ends the word. -/
theorem run_restOfWord {more : List Char} (hmore : ∀ c ∈ more, isWord c)
    (hend : ∀ c ∈ cs.head?, EndsWord c) (read : List Char) :
    run .strict ⟨.word read, tokens⟩ (more ++ cs) =
      after tokens cs ((readWord .strict (read.reverse ++ more)).map .scalar) := by
  induction more generalizing read with
  | nil =>
    rw [List.nil_append, List.append_nil]
    cases cs with
    | nil => cases hread : readWord .strict read.reverse <;> simp [run, finish, after, hread]
    | cons c cs => exact run_word_cons read (hend c rfl)
  | cons c more ih =>
    obtain ⟨hc, hmore⟩ := List.forall_mem_cons.1 hmore
    have hstep : step .strict ⟨.word read, tokens⟩ c = some ⟨.word (c :: read), tokens⟩ :=
      if_pos hc
    rw [List.cons_append, run, hstep]
    simpa using ih hmore (c :: read)

/-- A lexeme gives its token or ends the scan. A word has to be followed by something else. -/
theorem run_lexeme {lexeme : Lexeme} (hlegal : lexeme.IsLegal)
    (hend : lexeme.IsWord → ∀ c ∈ cs.head?, EndsWord c) :
    run .strict ⟨.between, tokens⟩ (lexeme.text ++ cs) = after tokens cs lexeme.token? := by
  cases lexeme with
  | openTable | closeTable | openList | closeList | colon | comma => rfl
  | quoted strokes =>
    have hstrokes : run .strict ⟨.quoted [], tokens⟩ (strokes.flatMap Stroke.text ++ '"' :: cs) =
      after tokens cs (quotedToken? [] (Stroke.read? strokes)) := run_strokes hlegal []
    rw [Lexeme.text, List.cons_append, List.cons_append, List.append_assoc]
    exact hstrokes
  | word word =>
    obtain ⟨hne, hword⟩ := hlegal
    obtain ⟨c, more, rfl⟩ := List.exists_cons_of_ne_nil hne
    obtain ⟨hc, hmore⟩ := List.forall_mem_cons.1 hword
    rw [Lexeme.text, List.cons_append, run, step, start_word hc]
    exact run_restOfWord hmore (hend trivial) [c]

/-- Where no word comes first, a word may end. -/
theorem endsWord_of_spaced {lexemes : List Lexeme} (h : Spaced lexemes cs)
    (hmark : ∀ next ∈ lexemes.head?, ¬ next.IsWord) : ∀ c ∈ cs.head?, EndsWord c := by
  cases h with
  | nil hblanks => exact fun c hc => Or.inl (hblanks c (List.mem_of_mem_head? hc))
  | @cons blanks hblanks lexeme _ cs rest =>
    cases blanks with
    | cons b blanks =>
      rintro c ⟨⟩
      exact Or.inl (hblanks _ List.mem_cons_self)
    | nil =>
      have hlexeme := hmark lexeme rfl
      cases lexeme with
      | word => exact absurd trivial hlexeme
      | openTable | closeTable | openList | closeList | colon | comma | quoted =>
        rintro c ⟨⟩
        exact Or.inr (by decide)

/-- Lexemes with blanks around them are scanned one after another. -/
theorem run_spaced {lexemes : List Lexeme} (h : Spaced lexemes cs)
    (hlegal : ∀ lexeme ∈ lexemes, lexeme.IsLegal) (hparted : Lexeme.Parted lexemes) :
    run .strict ⟨.between, tokens⟩ cs =
      (tokens.reverse ++ (Lexeme.tokens lexemes).1, (Lexeme.tokens lexemes).2) := by
  induction h generalizing tokens with
  | @nil blanks hblanks =>
    have hrun : run .strict ⟨.between, tokens⟩ (blanks ++ []) = run .strict ⟨.between, tokens⟩ [] :=
      run_blanks hblanks
    rw [List.append_nil] at hrun
    simp [hrun, run, finish, Lexeme.tokens]
  | cons hblanks lexeme rest ih =>
    obtain ⟨hlexeme, hrest⟩ := List.forall_mem_cons.1 hlegal
    obtain ⟨hword, hparted⟩ := hparted
    have hend := fun h => endsWord_of_spaced rest (hword h)
    rw [run_blanks hblanks, run_lexeme hlexeme hend, Lexeme.tokens]
    cases htoken : lexeme.token? with
    | none => simp [after]
    | some token => simp [after, ih hrest hparted]

end Scanner

/-! ## Documents -/

namespace Document

open Lexeme

/-- What stands in front of a mark adds no pair of words. -/
theorem parted_cons {lexeme : Lexeme} {rest : List Lexeme} (h : ¬ lexeme.IsWord)
    (hrest : Parted rest) : Parted (lexeme :: rest) := ⟨fun hword => absurd hword h, hrest⟩

/-- What follows an item begins with a mark. -/
theorem moreItems_head (items : List Document) {rest : List Lexeme} :
    ∀ next ∈ (moreItems items ++ rest).head?, ¬ next.IsWord := by
  cases items <;> (rintro next ⟨⟩; exact id)

/-- What follows an entry begins with a mark. -/
theorem moreEntries_head (entries : List (List Stroke × Document)) {rest : List Lexeme} :
    ∀ next ∈ (moreEntries entries ++ rest).head?, ¬ next.IsWord := by
  cases entries <;> (rintro next ⟨⟩; exact id)

mutual

/-- In front of a mark, a document keeps its words apart. -/
theorem parted_lexemes : ∀ (document : Document) {rest : List Lexeme},
    (∀ next ∈ rest.head?, ¬ next.IsWord) → Parted rest → Parted (document.lexemes ++ rest)
  | .word _, _, hmark, hrest => ⟨fun _ => hmark, hrest⟩
  | .quoted _, _, _, hrest => parted_cons id hrest
  | .list [], _, _, hrest => parted_cons id (parted_cons id hrest)
  | .list (item :: items), rest, _, hrest => by
    rw [lexemes, List.cons_append, List.append_assoc]
    exact parted_cons id (parted_lexemes item (moreItems_head items) (parted_moreItems items hrest))
  | .table [], _, _, hrest => parted_cons id (parted_cons id hrest)
  | .table ((key, value) :: entries), rest, _, hrest => by
    rw [lexemes, List.cons_append, List.cons_append, List.cons_append, List.append_assoc]
    exact parted_cons id (parted_cons id (parted_cons id
      (parted_lexemes value (moreEntries_head entries) (parted_moreEntries entries hrest))))

theorem parted_moreItems : ∀ (items : List Document) {rest : List Lexeme}, Parted rest →
    Parted (moreItems items ++ rest)
  | [], _, hrest => parted_cons id hrest
  | item :: items, rest, hrest => by
    rw [moreItems, List.cons_append, List.append_assoc]
    exact parted_cons id (parted_lexemes item (moreItems_head items) (parted_moreItems items hrest))

theorem parted_moreEntries : ∀ (entries : List (List Stroke × Document)) {rest : List Lexeme},
    Parted rest → Parted (moreEntries entries ++ rest)
  | [], _, hrest => parted_cons id hrest
  | (key, value) :: entries, rest, hrest => by
    rw [moreEntries, List.cons_append, List.cons_append, List.cons_append, List.append_assoc]
    exact parted_cons id (parted_cons id (parted_cons id
      (parted_lexemes value (moreEntries_head entries) (parted_moreEntries entries hrest))))

end

/-- The tokens of a text that writes a document are those of its lexemes. -/
theorem tokens_of_writes {document : Document} {s : String} (h : document.Writes s) :
    Json.tokens .strict s.toList = Lexeme.tokens document.lexemes := by
  have hparted : Parted (document.lexemes ++ []) := parted_lexemes document (by simp) trivial
  rw [List.append_nil] at hparted
  exact Scanner.run_spaced h.2 h.1 hparted

end Document

end CardPayments.Json
