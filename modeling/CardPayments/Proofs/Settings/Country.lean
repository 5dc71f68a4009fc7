import CardPayments.Proofs.Settings.Origin

/-!
# Countries in any case

The entry of a country is found in whatever case the country is passed, if its key is written in
upper case. What the environment spells is in lower case, so that the entry of a country with a
letter of ASCII is one that is written out.
-/

namespace CardPayments

namespace Text

/-- Whether two texts differ in case at most. -/
def SameUpToCase (a b : String) : Prop := toUpper a = toUpper b

instance : DecidableRel SameUpToCase := fun a b =>
  inferInstanceAs (Decidable (toUpper a = toUpper b))

/-- The upper case of a text with a letter of ASCII has a capital letter of ASCII. -/
theorem exists_capital_of_isAlpha {s : String} {c : Char} (hc : c ∈ s.toList)
    (halpha : c.isAlpha = true) :
    ∃ d ∈ (toUpper s).toList, 0x41 ≤ d.toNat ∧ d.toNat ≤ 0x5a := by
  have hascii : c.toNat < 0x80 := by
    rcases Bool.or_eq_true_iff.1 halpha with hcapital | hsmall
    · have hmax : c.toNat ≤ 0x5a := (of_decide_eq_true hcapital).2
      omega
    · have hmax : c.toNat ≤ 0x7a := of_decide_eq_true (Bool.and_eq_true_iff.1 hsmall).2
      omega
  have hcapital : c.isAlpha = true → 0x41 ≤ c.toUpper.toNat ∧ c.toUpper.toNat ≤ 0x5a :=
    forall_ascii c hascii (by decide +kernel)
  refine ⟨c.toUpper, ?_, hcapital halpha⟩
  rw [toUpper, String.toList_ofList, List.mem_flatMap]
  refine ⟨c, hc, ?_⟩
  rw [upperOf, if_pos hascii]
  exact List.mem_singleton_self _

end Text

namespace GatewaySettings

open Text Environment

variable {entries : List (String × String)} {country key entry : String}

/-! ## Entries of a country -/

/-- Whether an entry that is not empty is the only such one of the country. -/
structure OnlyEntry (entries : List (String × String)) (country key entry : String) : Prop where
  /-- It is there. -/
  found : entries.lookup key = some entry
  /-- Its key is the country, in some case. -/
  same : SameUpToCase key country
  /-- It is not empty. -/
  nonempty : entry ≠ ""
  /-- No other entry is both. -/
  only : ∀ k e, entries.lookup k = some e → SameUpToCase k country → e ≠ "" → k = key

/-- Whether no entry of the country is there, or an empty one at most. -/
def NoEntry (entries : List (String × String)) (country : String) : Prop :=
  ∀ k e, entries.lookup k = some e → SameUpToCase k country → e = ""

/-- An entry that is not empty is found under the country in upper case. -/
theorem entryFor_eq_some_iff (hcountry : country ≠ "") :
    entryFor entries (some country) = some entry ↔
      entries.lookup (toUpper country) = some entry ∧ entry ≠ "" := by
  unfold entryFor
  simp only [if_neg hcountry]
  cases entries.lookup (toUpper country) with
  | none => simp
  | some found =>
    by_cases hfound : found = ""
    · simp only [if_pos hfound, Option.some.injEq]
      constructor
      · intro h
        cases h
      · rintro ⟨rfl, hne⟩
        exact absurd hfound hne
    · simp only [if_neg hfound, Option.some.injEq]
      constructor
      · rintro rfl
        exact ⟨rfl, hfound⟩
      · exact And.left

/-- The only entry of a country is found exactly if its key is in upper case. -/
theorem OnlyEntry.entryFor_eq (h : OnlyEntry entries country key entry) (hcountry : country ≠ "") :
    entryFor entries (some country) = if toUpper key = key then some entry else none := by
  split
  · rename_i hupper
    have hkey : toUpper country = key := h.same.symm.trans hupper
    rw [entryFor_eq_some_iff hcountry, hkey]
    exact ⟨h.found, h.nonempty⟩
  · rename_i hupper
    rw [Option.eq_none_iff_forall_ne_some]
    intro e he
    obtain ⟨hlookup, hne⟩ := (entryFor_eq_some_iff hcountry).1 he
    have hkey : toUpper country = key := h.only _ e hlookup (toUpper_toUpper country) hne
    have hkeyUpper : toUpper key = key := h.same.trans hkey
    exact hupper hkeyUpper

/-- A country without an entry has none to be found. -/
theorem NoEntry.entryFor_eq (h : NoEntry entries country) :
    entryFor entries (some country) = none := by
  rw [Option.eq_none_iff_forall_ne_some]
  intro e he
  by_cases hcountry : country = ""
  · rw [hcountry] at he
    cases he
  · obtain ⟨hlookup, hne⟩ := (entryFor_eq_some_iff hcountry).1 he
    exact hne (h _ e hlookup (toUpper_toUpper country))

/-- The one entry of a table is the only one. -/
theorem onlyEntry_singleton (hsame : SameUpToCase key country) (hne : entry ≠ "") :
    OnlyEntry [(key, entry)] country key entry := by
  refine ⟨by simp, hsame, hne, fun k e hlookup _ _ => ?_⟩
  by_contra hkey
  have hbeq : (k == key) = false := beq_eq_false_iff_ne.2 hkey
  simp [List.lookup_cons, hbeq] at hlookup

/-! ## Where they come from -/

/-- A table of texts has the names of the table that it is read from. -/
theorem lookup_isSome_of_textTable {bag : Bag} {entries : List (String × String)}
    (h : Checked.textTable (.table bag) = .ok entries) (key : String) :
    (entries.lookup key).isSome = bag.has key := by
  induction bag generalizing entries with
  | nil =>
    cases h
    rfl
  | cons first bag ih =>
    obtain ⟨texts, rest, htexts, hrest, happly⟩ := Checked.apply_eq_ok_iff.1 h
    obtain ⟨s, -, hs⟩ := Checked.map_eq_ok_iff.1 htexts
    subst hs
    cases happly
    rw [Bag.has, Bag.get?_cons, List.lookup_cons]
    by_cases hkey : key = first.1
    · simp [hkey]
    · simp [hkey, beq_eq_false_iff_ne.2 hkey, ih hrest, Bag.has]

/-- A field of texts has an entry only where the bag has it. -/
theorem hasEntry_of_withDefault {bag : Bag} {name : String} {entries : List (String × String)}
    (h : Checked.withDefault name [] Checked.textTable (bag.get? name) = .ok entries)
    (hkey : (entries.lookup key).isSome = true) : HasEntry bag name key := by
  cases hget : bag.get? name with
  | none =>
    rw [hget] at h
    cases h
    cases hkey
  | some v =>
    rw [hget, Checked.withDefault, Checked.under_eq_ok_iff] at h
    cases v with
    | table table =>
      refine ⟨table, hget, ?_⟩
      rw [← lookup_isSome_of_textTable h]
      exact hkey
    | _ => cases h

/-- The tables of countries are read from their fields. -/
theorem tables_of_ofBag {bag : Bag} {s : GatewaySettings} (h : ofBag bag = .ok s) :
    Checked.withDefault "merchant_accounts" [] Checked.textTable (bag.get? "merchant_accounts") =
        .ok s.merchantAccounts ∧
      Checked.withDefault "skins" [] Checked.textTable (bag.get? "skins") = .ok s.skins := by
  simp only [ofBag, Checked.seq_eq_ok_iff, Checked.fmap_eq_ok_iff] at h
  obtain ⟨_, _, ⟨_, _, ⟨_, _, ⟨_, _, ⟨_, _, ⟨_, _, ⟨_, -, rfl⟩, -, rfl⟩, haccounts, rfl⟩, -, rfl⟩,
    hskins, rfl⟩, -, rfl⟩, -, rfl⟩ := h
  exact ⟨haccounts, hskins⟩

/-- Every entry of the tables of countries is written out or spelled by the environment. -/
theorem origin_of_load {environment : List (String × String)} {explicit : Bag} {s : GatewaySettings}
    (h : load environment explicit = .ok s) (key : String) :
    ((s.merchantAccounts.lookup key).isSome = true →
      Written environment explicit "gateway__" "merchant_accounts" key ∨
        Spelled environment "gateway__" "merchant_accounts" key) ∧
    ((s.skins.lookup key).isSome = true → Written environment explicit "gateway__" "skins" key ∨
      Spelled environment "gateway__" "skins" key) := by
  obtain ⟨bag, hbag, hload⟩ := Outcome.exists_of_bind_ok h
  split at hload
  · rename_i hchecked
    cases hload
    obtain ⟨haccounts, hskins⟩ := tables_of_ofBag hchecked
    constructor
    · intro hkey
      refine origin_of_gather hbag ?_ (hasEntry_of_withDefault haccounts hkey)
      intro shape hshape
      simpa [fields] using hshape
    · intro hkey
      refine origin_of_gather hbag ?_ (hasEntry_of_withDefault hskins hkey)
      intro shape hshape
      simpa [fields] using hshape
  · cases hload

/-- What the environment spells is no country in upper case with a letter of ASCII. -/
theorem not_spelled_toUpper {environment : List (String × String)} {mark field : String}
    (hletter : ∃ c ∈ country.toList, c.isAlpha = true) :
    ¬ Spelled environment mark field (toUpper country) := by
  intro h
  obtain ⟨c, hc, halpha⟩ := hletter
  obtain ⟨d, hd, hmin, hmax⟩ := exists_capital_of_isAlpha hc halpha
  rcases h.not_capital hd with hlow | hhigh
  · omega
  · omega

/-! ## Accounts and skins -/

/-- Whether no merchant account goes before that of the country. -/
def NamesNoAccount (properties : Bag) : Prop :=
  ∀ account, properties.text? Property.merchantAccount = some account → account = ""

theorem merchantAccountFor_eq {properties : Bag} (h : NamesNoAccount properties)
    (s : GatewaySettings) (country : Option String) :
    s.merchantAccountFor country properties =
      (entryFor s.merchantAccounts country).getD s.merchantAccount := by
  unfold merchantAccountFor
  split
  · rename_i account haccount
    rw [if_pos (h account haccount)]
  · rfl

/-- The only entry of a country is used in whatever case the country is passed, if its key is in
upper case, and the default is used if there is no entry. In settings that are loaded, the entry of
a country with a letter of ASCII is one whose key is written out, so in upper case. -/
theorem country_in_any_case (s : GatewaySettings) {country : String} (hcountry : country ≠ "") :
    (∀ properties, NamesNoAccount properties →
      (∀ key account, OnlyEntry s.merchantAccounts country key account → toUpper key = key →
        s.merchantAccountFor (some country) properties = account) ∧
      (NoEntry s.merchantAccounts country →
        s.merchantAccountFor (some country) properties = s.merchantAccount)) ∧
    (∀ key skin, OnlyEntry s.skins country key skin → toUpper key = key →
      s.skinFor (some country) = some skin) ∧
    (NoEntry s.skins country → s.skinFor (some country) = s.defaultSkin) ∧
    ∀ environment explicit, load environment explicit = .ok s →
      (∃ c ∈ country.toList, c.isAlpha = true) →
      (∀ account, entryFor s.merchantAccounts (some country) = some account →
        Written environment explicit "gateway__" "merchant_accounts" (toUpper country)) ∧
      ∀ skin, entryFor s.skins (some country) = some skin →
        Written environment explicit "gateway__" "skins" (toUpper country) := by
  refine ⟨fun properties hproperties => ⟨?_, ?_⟩, ?_, ?_, ?_⟩
  · intro key account honly hupper
    rw [merchantAccountFor_eq hproperties, honly.entryFor_eq hcountry, if_pos hupper]
    rfl
  · intro hno
    rw [merchantAccountFor_eq hproperties, hno.entryFor_eq]
    rfl
  · intro key skin honly hupper
    rw [skinFor, honly.entryFor_eq hcountry, if_pos hupper]
    rfl
  · intro hno
    rw [skinFor, hno.entryFor_eq]
    rfl
  · intro environment explicit hload hletter
    obtain ⟨haccounts, hskins⟩ := origin_of_load hload (toUpper country)
    constructor
    · intro account haccount
      obtain ⟨hlookup, -⟩ := (entryFor_eq_some_iff hcountry).1 haccount
      exact (haccounts (by rw [hlookup]; rfl)).resolve_right (not_spelled_toUpper hletter)
    · intro skin hskin
      obtain ⟨hlookup, -⟩ := (entryFor_eq_some_iff hcountry).1 hskin
      exact (hskins (by rw [hlookup]; rfl)).resolve_right (not_spelled_toUpper hletter)

/-- An account that a JSON text gives for a country is used when the country is passed in lower
case. -/
theorem country_in_any_case_json : ∃ s : GatewaySettings, ∃ environment : List (String × String),
    load environment [] = .ok s ∧ s.merchantAccountFor (some "nl") [] = "NlMerchant" ∧
      s.skinFor (some "nl") = s.defaultSkin ∧
      Written environment [] "gateway__" "merchant_accounts" (toUpper "nl") := by
  let s : GatewaySettings := { merchantAccounts := [("NL", "NlMerchant")] }
  let environment := [("GATEWAY__MERCHANT_ACCOUNTS", "\x7b\"NL\": \"NlMerchant\"\x7d")]
  have hload : load environment [] = .ok s := Outcome.eq_ok_of_toOption (by decide +kernel)
  have hcountry : "nl" ≠ "" := by decide
  obtain ⟨haccounts, hskin, hnoSkin, horigin⟩ := country_in_any_case s hcountry
  have haccount := (haccounts [] nofun).1 "NL" "NlMerchant"
    (onlyEntry_singleton (by decide +kernel) (by decide)) (by decide +kernel)
  refine ⟨s, environment, hload, haccount, hnoSkin nofun, ?_⟩
  exact (horigin environment [] hload ⟨'n', by decide, by decide⟩).1 "NlMerchant"
    (by decide +kernel)

/-- A country that the environment spells has its account and its skin as the only ones, but neither
is found in any case. -/
theorem spelled_country_is_missed :
    ∃ s : GatewaySettings, load [("GATEWAY__MERCHANT_ACCOUNTS__NL", "NlMerchant"),
        ("GATEWAY__SKINS__NL", "skinNL")] [("merchant_account", .text "Default")] = .ok s ∧
      OnlyEntry s.merchantAccounts "NL" "nl" "NlMerchant" ∧ OnlyEntry s.skins "NL" "nl" "skinNL" ∧
      s.merchantAccountFor (some "NL") [] = "Default" ∧
      s.merchantAccountFor (some "nl") [] = "Default" ∧
      s.skinFor (some "NL") = none ∧ s.skinFor (some "nl") = none := by
  let s : GatewaySettings :=
    { merchantAccount := "Default", merchantAccounts := [("nl", "NlMerchant")],
      skins := [("nl", "skinNL")] }
  refine ⟨s, Outcome.eq_ok_of_toOption (by decide +kernel), ?_, ?_, ?_⟩
  · exact onlyEntry_singleton (by decide +kernel) (by decide)
  · exact onlyEntry_singleton (by decide +kernel) (by decide)
  · decide +kernel

end GatewaySettings

end CardPayments
