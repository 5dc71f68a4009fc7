import CardPayments.Proofs.Bag
import CardPayments.Proofs.Checked
import CardPayments.Proofs.Record
import CardPayments.Proofs.Text.Case
import CardPayments.Settings.Environment

/-!
# Where the entries of tables come from

Every entry of a table among the settings is written out in an explicit table or in a JSON text, or
is named by the environment itself. What is named there is in lower case.
-/

namespace CardPayments

namespace Bag

/-- A bag has the name that is put into it, and its own. -/
theorem has_put (bag : Bag) (key name : String) (value : Value) :
    has (bag.put key value) name = (decide (name = key) || bag.has name) := by
  rw [has, get?_put]
  by_cases hname : name = key
  · simp [hname]
  · simp [hname, has]

end Bag

namespace Environment

/-! ## Names in lower case -/

/-- What the environment is asked for stands in it, under a name in any case. -/
theorem mem_normalized {environment : List (String × String)} {name text : String}
    (h : (name, text) ∈ normalized environment) :
    ∃ given ∈ environment, Text.toLower given.1 = name ∧ given.2 = text := by
  let Stands (known : List (String × String)) : Prop := ∀ entry ∈ known,
    ∃ given ∈ environment, Text.toLower given.1 = entry.1 ∧ given.2 = entry.2
  have hall : Stands (normalized environment) := by
    refine List.foldlRecOn (motive := Stands) environment _ (fun entry hentry => nomatch hentry) ?_
    intro known hknown given hgiven entry hentry
    simp only at hentry
    split at hentry
    · obtain ⟨old, hold, rfl⟩ := List.mem_map.1 hentry
      split
      · exact ⟨given, hgiven, rfl, rfl⟩
      · exact hknown old hold
    · rcases List.mem_append.1 hentry with hold | hnew
      · exact hknown entry hold
      · rw [List.mem_singleton.1 hnew]
        exact ⟨given, hgiven, rfl, rfl⟩
  exact hall _ h

/-! ## Tables over each other -/

/-- A table over another one has the names of both. -/
theorem has_overlay (lower : Bag) (upper : List (String × Value)) (key : String) :
    Bag.has (overlay lower upper) key = (lower.has key || Bag.has upper key) := by
  induction upper generalizing lower with
  | nil => simp [overlay, Bag.has]
  | cons entry upper ih =>
    obtain ⟨name, value⟩ := entry
    have hcons : Bag.has ((name, value) :: upper) key =
        (decide (key = name) || Bag.has upper key) := by
      rw [Bag.has, Bag.get?_cons]
      by_cases hkey : key = name
      · simp [hkey]
      · simp [hkey, Bag.has]
    rw [overlay, ih, Bag.has_put, hcons, ← Bool.or_assoc, Bool.or_comm (decide _)]

/-- Whether a bag has an entry with the name in a table under the field. -/
def HasEntry (bag : Bag) (field key : String) : Prop :=
  ∃ table : Bag, bag.get? field = some (.table table) ∧ table.has key = true

/-- What lies over a value has an entry if it is a table with it, or one over such a table. -/
theorem hasEntry_overlayValue {lower : Option Value} {v : Value} {table : Bag} {key : String}
    (hv : overlayValue lower v = .table table) (hkey : table.has key = true) :
    (∃ under : Bag, lower = some (.table under) ∧ under.has key = true) ∨
      ∃ upper : Bag, v = .table upper ∧ upper.has key = true := by
  cases v with
  | table upper =>
    unfold overlayValue at hv
    split at hv
    · rename_i under
      cases hv
      rw [has_overlay, Bool.or_eq_true] at hkey
      exact hkey.imp (fun h => ⟨under, rfl, h⟩) fun h => ⟨upper, rfl, h⟩
    · cases hv
      exact Or.inr ⟨table, rfl, hkey⟩
  | _ => simp [overlayValue] at hv

/-- A bag over another one has an entry if one of the two has it. -/
theorem hasEntry_overlay {lower : Bag} {upper : List (String × Value)} {field key : String}
    (h : HasEntry (overlay lower upper) field key) : HasEntry lower field key ∨
      ∃ table : Bag, (field, .table table) ∈ upper ∧ table.has key = true := by
  induction upper generalizing lower with
  | nil => exact Or.inl (by rwa [overlay] at h)
  | cons entry upper ih =>
    obtain ⟨name, value⟩ := entry
    rw [overlay] at h
    rcases ih h with ⟨table, htable, hkey⟩ | ⟨table, htable, hkey⟩
    · rw [Bag.get?_put] at htable
      split at htable
      · rename_i hname
        subst hname
        rcases hasEntry_overlayValue (Option.some.inj htable) hkey with
          hunder | ⟨placed, rfl, hplaced⟩
        · exact Or.inl hunder
        · exact Or.inr ⟨placed, List.mem_cons_self, hplaced⟩
      · exact Or.inl ⟨table, htable, hkey⟩
    · exact Or.inr ⟨table, List.mem_cons_of_mem _ htable, hkey⟩

/-! ## Entries one by one -/

/-- Whether the environment, with names in lower case, names an entry with the key. -/
def NamesEntry (environment : List (String × String)) (name key : String) : Prop :=
  ∃ given ∈ environment, ∃ rest path,
    behind? (name ++ "__") given.1 = some rest ∧ splitName [] rest = key :: path

/-- A path is put under its first name. -/
theorem has_putPath {bag : Bag} {v : Value} {first key : String} {path : List String}
    (h : (putPath bag v (first :: path)).has key = true) : key = first ∨ bag.has key = true := by
  have hput {w : Value} (h : (bag.put first w).has key = true) :
      key = first ∨ bag.has key = true := by
    rw [Bag.has_put, Bool.or_eq_true, decide_eq_true_eq] at h
    exact h
  unfold putPath at h
  split at h
  · rename_i heq
    cases heq
  · rename_i heq
    cases heq
    exact hput h
  · rename_i heq
    cases heq
    split at h
    · exact hput h
    · exact Or.inr h
    · exact hput h

/-- A name is split into at least one. -/
theorem splitName_ne_nil (current rest : List Char) : splitName current rest ≠ [] := by
  fun_induction splitName current rest with
  | case1 => simp
  | case2 => simp
  | case3 _ _ _ _ ih => exact ih

/-- What every step keeps that gives a result is kept by all of them together. -/
theorem foldlM_keeps {α β ε : Type} {step : β → α → Except ε β} (keeps : β → Prop) {as : List α}
    (hstep : ∀ b a c, keeps b → a ∈ as → step b a = .ok c → keeps c) {b c : β} (hb : keeps b)
    (h : as.foldlM step b = .ok c) : keeps c := by
  induction as generalizing b with
  | nil =>
    cases h
    exact hb
  | cons a as ih =>
    rw [List.foldlM_cons] at h
    obtain ⟨d, ha, hrest⟩ := Outcome.exists_of_bind_ok h
    refine ih (fun b a' c hb hmem => hstep b a' c hb (List.mem_cons_of_mem _ hmem)) ?_ hrest
    exact hstep b a d hb List.mem_cons_self ha

/-- Entries that are given one by one are named by the environment. -/
theorem namesEntry_of_entries {environment : List (String × String)} {name key : String}
    {inner : String → Except SettingsFault Value} {bag : Bag}
    (h : entries environment name inner = .ok bag) (hkey : bag.has key = true) :
    NamesEntry environment name key := by
  refine foldlM_keeps (fun bag => bag.has key = true → NamesEntry environment name key) ?_ ?_ h hkey
  · intro bag given next hbag hgiven hnext hhas
    cases hbehind : behind? (name ++ "__") given.1 with
    | none =>
      rw [hbehind] at hnext
      cases hnext
      exact hbag hhas
    | some rest =>
      -- The first part of the name is the key, or the key was there before.
      have hfirst {first : String} {path : List String} {v : Value}
          (hsplit : splitName [] rest = first :: path)
          (hput : (putPath bag v (first :: path)).has key = true) :
          NamesEntry environment name key := by
        rcases has_putPath hput with rfl | hhad
        · exact ⟨given, hgiven, rest, path, hbehind, hsplit⟩
        · exact hbag hhad
      rw [hbehind] at hnext
      cases hsplit : splitName [] rest with
      | nil => exact absurd hsplit (splitName_ne_nil [] rest)
      | cons first path =>
        rw [Option.map_some, hsplit] at hnext
        cases path with
        | nil =>
          cases hnext
          exact hfirst hsplit (by rwa [putPath])
        | cons second path =>
          obtain ⟨v, -, hput⟩ := Outcome.exists_of_bind_ok hnext
          cases hput
          exact hfirst hsplit hhas
  · intro hhas
    cases hhas

/-! ## Tables from the environment -/

/-- Whether the environment, with names in lower case, writes the key out in a JSON table. -/
def WritesEntry (environment : List (String × String)) (name key : String) : Prop :=
  ∃ given ∈ environment, given.1 = name ∧
    ∃ table : Bag, Json.read .lenient given.2 = .ok (.table table) ∧ table.has key = true

/-- An entry of a table is written in the environment, or named by it. -/
theorem entry_of_compound {environment : List (String × String)} {name key : String}
    {inner : String → Except SettingsFault Value} {table : Bag}
    (h : compound environment name inner = .ok (some (.table table)))
    (hkey : table.has key = true) :
    WritesEntry environment name key ∨ NamesEntry environment name key := by
  unfold compound at h
  cases hlookup : environment.lookup name with
  | none =>
    rw [hlookup] at h
    obtain ⟨single, hsingle, hvalue⟩ := Outcome.exists_of_bind_ok h
    have hone : (if single.isEmpty then none else some (Value.table single)) =
        some (.table table) := Except.ok.inj hvalue
    split at hone
    · cases hone
    · cases hone
      exact Or.inr (namesEntry_of_entries hsingle hkey)
  | some text =>
    have hgiven : (name, text) ∈ environment := by
      obtain ⟨before, behind, rfl, -⟩ := List.lookup_eq_some_iff.1 hlookup
      exact List.mem_append_right _ List.mem_cons_self
    rw [hlookup] at h
    simp only at h
    split at h
    · cases h
    · cases h
    · rename_i bag hread
      obtain ⟨single, hsingle, hvalue⟩ := Outcome.exists_of_bind_ok h
      cases hvalue
      rw [has_overlay, Bool.or_eq_true] at hkey
      rcases hkey with hwritten | hnamed
      · exact Or.inl ⟨_, hgiven, rfl, bag, hread, hwritten⟩
      · exact Or.inr (namesEntry_of_entries hsingle hnamed)
    · cases h
    · rename_i v hnot _ hread
      cases h
      exact absurd rfl (hnot table)

/-- A field that is read stands under its name as its shape has it. -/
theorem value_of_read {environment : List (String × String)} {mark : String}
    {fields : List (String × Shape)} {bag : Bag} (h : read environment mark fields = .ok bag)
    {field : String} {v : Value} (hv : bag.get? field = some v) :
    ∃ shape, (field, shape) ∈ fields ∧
      value? environment (mark ++ Text.toLower field) shape = .ok (some v) := by
  induction fields generalizing bag with
  | nil =>
    cases h
    cases hv
  | cons first fields ih =>
    obtain ⟨name, shape⟩ := first
    obtain ⟨value, hvalue, hbehind⟩ := Outcome.exists_of_bind_ok h
    obtain ⟨rest, hrest, hbag⟩ := Outcome.exists_of_bind_ok hbehind
    have hlater (hv : rest.get? field = some v) : ∃ other,
        (field, other) ∈ (name, shape) :: fields ∧
          value? environment (mark ++ Text.toLower field) other = .ok (some v) := by
      obtain ⟨other, hmem, hread⟩ := ih hrest hv
      exact ⟨other, List.mem_cons_of_mem _ hmem, hread⟩
    cases value with
    | none =>
      cases hbag
      exact hlater hv
    | some w =>
      cases hbag
      rw [Bag.get?_cons] at hv
      split at hv
      · rename_i hname
        cases hv
        subst hname
        exact ⟨shape, List.mem_cons_self, hvalue⟩
      · exact hlater hv

/-- What is given explicitly under a field is given under its name in some case. -/
theorem mem_named {fields : List String} {explicit : Bag} {field : String} {v : Value}
    (h : (field, v) ∈ named fields explicit) :
    ∃ entry ∈ explicit, Text.toLower entry.1 = Text.toLower field ∧ entry.2 = v := by
  obtain ⟨name, -, hname⟩ := List.mem_filterMap.1 h
  obtain ⟨entry, hfind, heq⟩ := Option.map_eq_some_iff.1 hname
  cases heq
  exact ⟨entry, List.mem_of_find?_eq_some hfind, by simpa using List.find?_some hfind, rfl⟩

/-! ## Where entries come from -/

/-- Whether the key of an entry is written out, in an explicit table or in a JSON text. -/
inductive Written (environment : List (String × String)) (explicit : Bag)
    (mark field key : String) : Prop
  /-- In an explicit table. -/
  | explicit {name : String} {table : Bag} (given : (name, .table table) ∈ explicit)
      (same : Text.toLower name = Text.toLower field) (has : table.has key = true) :
      Written environment explicit mark field key
  /-- In a JSON text. -/
  | json {name text : String} {table : Bag} (given : (name, text) ∈ environment)
      (same : Text.toLower name = mark ++ Text.toLower field)
      (reads : Json.read .lenient text = .ok (.table table)) (has : table.has key = true) :
      Written environment explicit mark field key

/-- Whether the key of an entry is what a name in the environment has, in lower case, behind that of
the field. -/
def Spelled (environment : List (String × String)) (mark field key : String) : Prop :=
  ∃ given ∈ environment, ∃ rest path,
    behind? (mark ++ Text.toLower field ++ "__") (Text.toLower given.1) = some rest ∧
      splitName [] rest = key :: path

/-- Every entry of a table that is gathered is written out or spelled by the environment. -/
theorem origin_of_gather {environment : List (String × String)} {mark field key : String}
    {fields : List (String × Shape)} {explicit bag : Bag}
    (h : gather environment mark fields explicit = .ok bag)
    (htable : ∀ shape, (field, shape) ∈ fields → shape = .table) (hentry : HasEntry bag field key) :
    Written environment explicit mark field key ∨ Spelled environment mark field key := by
  obtain ⟨given, hread, hbag⟩ := Outcome.exists_of_bind_ok h
  cases hbag
  rcases hasEntry_overlay hentry with ⟨table, hget, hkey⟩ | ⟨table, hmem, hkey⟩
  · obtain ⟨shape, hshape, hvalue⟩ := value_of_read hread hget
    rw [htable shape hshape, value?] at hvalue
    rcases entry_of_compound hvalue hkey with ⟨⟨name, text⟩, hgiven, hname, table, hjson, hkey⟩ |
      ⟨⟨name, text⟩, hgiven, rest, path, hbehind, hsplit⟩
    · obtain ⟨entry, hentry, hlower, rfl⟩ := mem_normalized hgiven
      exact Or.inl (.json hentry (hlower.trans hname) hjson hkey)
    · obtain ⟨entry, hentry, hlower, rfl⟩ := mem_normalized hgiven
      exact Or.inr ⟨entry, hentry, rest, path, by rw [hlower]; exact hbehind, hsplit⟩
  · obtain ⟨entry, hentry, hsame, hv⟩ := mem_named hmem
    obtain ⟨name, value⟩ := entry
    subst hv
    exact Or.inl (.explicit hentry hsame hkey)

/-! ## What the environment spells -/

/-- A character of part of a name is one of the name. -/
theorem mem_of_mem_splitName {current rest : List Char} {part : String}
    (h : part ∈ splitName current rest) {c : Char} (hc : c ∈ part.toList) :
    c ∈ current ∨ c ∈ rest := by
  fun_induction splitName current rest with
  | case1 current =>
    rw [List.mem_singleton.1 h, String.toList_ofList] at hc
    exact Or.inl (List.mem_reverse.1 hc)
  | case2 current rest ih =>
    rcases List.mem_cons.1 h with rfl | h
    · rw [String.toList_ofList] at hc
      exact Or.inl (List.mem_reverse.1 hc)
    · have hrest := (ih h).resolve_left List.not_mem_nil
      exact Or.inr (List.mem_cons_of_mem _ (List.mem_cons_of_mem _ hrest))
  | case3 current d rest _ ih =>
    rcases ih h with hcurrent | hrest
    · exact (List.mem_cons.1 hcurrent).elim (fun hd => Or.inr (hd ▸ List.mem_cons_self)) Or.inl
    · exact Or.inr (List.mem_cons_of_mem _ hrest)

/-- What the environment spells has no capital letter of ASCII. -/
theorem Spelled.not_capital {environment : List (String × String)} {mark field key : String}
    (h : Spelled environment mark field key) {c : Char} (hc : c ∈ key.toList) :
    c.toNat < 0x41 ∨ 0x5a < c.toNat := by
  obtain ⟨given, -, rest, path, hbehind, hsplit⟩ := h
  have hrest : c ∈ rest := by
    have hmem : key ∈ splitName [] rest := by
      rw [hsplit]
      exact List.mem_cons_self
    exact (mem_of_mem_splitName hmem hc).resolve_left List.not_mem_nil
  have hname : c ∈ (Text.toLower given.1).toList := by
    unfold behind? at hbehind
    split at hbehind
    · cases hbehind
      exact List.mem_of_mem_drop hrest
    · cases hbehind
  rw [Text.toLower, String.toList_ofList] at hname
  exact Text.not_capital_of_mem_lowerAfter hname

end Environment

end CardPayments
