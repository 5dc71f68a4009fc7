import CardPayments.Payment.Mapping
import CardPayments.Proofs.Nulls
import CardPayments.Proofs.Record
import CardPayments.Settings.Gateway

/-!
# Which property counts

What the gateway is told by a name is what the call says, or else what the stored payment method
says, or else what is known besides, if no null of the call hides a value of the stored payment
method. The null and the absent are told apart where one bag is laid over the other, and nowhere
else.
-/

namespace CardPayments

namespace Bag

/-- Putting a value into a table leaves it a table. -/
theorem distinct_put {bag : Bag} (h : bag.Distinct) (key : String) (value : Value) :
    Distinct (bag.put key value) := by
  unfold put Distinct
  split
  · have hnames : (bag.map fun entry => if entry.1 == key then (key, value) else entry).map
        Prod.fst = bag.map Prod.fst := by
      rw [List.map_map]
      refine List.map_congr_left fun entry _ => ?_
      rw [Function.comp]
      split
      · rename_i hkey
        exact (beq_iff_eq.1 hkey).symm
      · rfl
    rw [hnames]
    exact h
  · rename_i hnew
    rw [List.map_append, List.map_singleton, List.nodup_append]
    refine ⟨h, List.nodup_singleton _, ?_⟩
    rintro name hname other hother rfl
    rw [List.mem_singleton.1 hother] at hname
    exact hnew (has_iff.2 hname)

theorem distinct_putNew {bag : Bag} (h : bag.Distinct) (key : String) (value : Value) :
    Distinct (bag.putNew key value) := by
  unfold putNew
  split
  · exact h
  · exact distinct_put h key value

/-- So does laying a bag over it. -/
theorem distinct_onto {lower : Bag} (h : lower.Distinct) (upper : Bag) :
    Distinct (upper.onto lower) := by
  induction upper generalizing lower with
  | nil => exact h
  | cons entry upper ih => exact ih (distinct_put h entry.1 entry.2)

/-- So do several bags, laid over it in turn. -/
theorem distinct_foldl_onto {lowest : Bag} (h : lowest.Distinct) (bags : List Bag) :
    Distinct (bags.foldl (fun lower upper => upper.onto lower) lowest) := by
  induction bags generalizing lowest with
  | nil => exact h
  | cons bag bags ih => exact ih (distinct_onto h bag)

/-- Bags that are laid over each other are a table. -/
theorem distinct_merge (bags : List Bag) : Distinct (merge bags) :=
  distinct_foldl_onto (show Distinct [] from List.nodup_nil) bags

end Bag

namespace PaymentMethod

/-- What a call says over a stored payment method. -/
def propertiesUnder (method : PaymentMethod) (call : Bag) : Bag :=
  Bag.merge [method.properties, call]

/-- The first text that there is under a name: that of the call, that of the stored payment method,
or what is known besides. -/
def preferred (method : PaymentMethod) (call : Bag) (key : String) (fallback : Option String) :
    Option String :=
  (call.text? key).or ((method.additionalData.text? key).or fallback)

/-- Whether no property that a call gives as null has a value in the stored payment method. -/
def Unhidden (method : PaymentMethod) (call : Bag) : Prop :=
  ∀ entry ∈ call, entry.2 = .null → method.additionalData.text? entry.1 = none

instance (method : PaymentMethod) (call : Bag) : Decidable (method.Unhidden call) :=
  inferInstanceAs (Decidable (∀ entry ∈ call, entry.2 = .null →
    method.additionalData.text? entry.1 = none))

/-- Whether what a call says over a stored payment method is read off two tables, and nothing of it
is hidden. -/
structure Transparent (method : PaymentMethod) (call : Bag) : Prop where
  /-- The properties of the stored payment method are a table. -/
  stored : method.additionalData.Distinct
  /-- So are those of the call. -/
  given : call.Distinct
  /-- No null hides a value. -/
  unhidden : method.Unhidden call

variable {method : PaymentMethod} {call : Bag} {key : String}

/-- The stored payment method has no value for what the call gives as null. -/
theorem Transparent.text?_stored (h : method.Transparent call)
    (hnull : call.get? key = some .null) : method.additionalData.text? key = none :=
  h.unhidden _ (Bag.mem_of_get? hnull) rfl

/-- Without its nulls a call hides nothing. -/
theorem Transparent.withoutNulls (h : method.Transparent call) :
    method.Transparent call.withoutNulls :=
  ⟨h.stored, Bag.distinct_withoutNulls h.given,
    fun entry hentry => h.unhidden entry (List.mem_filter.1 hentry).1⟩

/-- Without its nulls a call prefers what it prefers with them. -/
theorem preferred_withoutNulls (h : call.Distinct) (key : String) (fallback : Option String) :
    method.preferred call.withoutNulls key fallback = method.preferred call key fallback := by
  unfold preferred
  rw [Bag.text?_withoutNulls h]

/-! ## The token -/

theorem distinct_properties (h : method.additionalData.Distinct) : method.properties.Distinct := by
  unfold properties
  split
  · exact Bag.distinct_putNew h _ _
  · exact h

/-- The token is the only property that a payment method brings besides its own. -/
theorem get?_properties (hkey : key ≠ Property.recurringDetailId) :
    method.properties.get? key = method.additionalData.get? key := by
  unfold properties
  split
  · exact Bag.get?_putNew_of_ne _ hkey _
  · rfl

/-- It is told in any case, as a property or because there is none. -/
theorem textOr_properties (method : PaymentMethod) :
    method.properties.textOr Property.recurringDetailId method.token =
      method.additionalData.textOr Property.recurringDetailId method.token := by
  unfold properties
  split
  · rename_i token htoken
    obtain ⟨htold, -⟩ := nonEmpty_eq_some_iff.1 htoken
    unfold Bag.putNew
    split
    · rfl
    · rename_i hnew
      have hnone : method.additionalData.get? Property.recurringDetailId = none := by
        simpa [Bag.has] using hnew
      simp only [Bag.textOr, Bag.text?, Bag.get?_put, if_true, hnone, htold]
      rfl
  · rfl

/-! ## Texts -/

section Transparent

variable (h : method.Transparent call)
include h

theorem propertiesUnder_eq : method.propertiesUnder call = call.onto method.properties := by
  have hlower : method.properties.onto [] = method.properties :=
    Bag.onto_nil_of_distinct (distinct_properties h.stored)
  unfold propertiesUnder Bag.merge
  rw [List.foldl_cons, List.foldl_cons, List.foldl_nil, hlower]

theorem distinct_propertiesUnder : (method.propertiesUnder call).Distinct := by
  rw [propertiesUnder_eq h]
  exact Bag.distinct_onto (distinct_properties h.stored) call

theorem get?_propertiesUnder (key : String) : (method.propertiesUnder call).get? key =
    (call.get? key).or (method.properties.get? key) := by
  rw [propertiesUnder_eq h, Bag.get?_onto_of_distinct h.given]

/-- A text of the call lies over what the payment method tells of itself, a null of the call over
nothing. -/
theorem textOr_propertiesUnder_of_own {fallback : Option String}
    (own : method.properties.textOr key fallback = method.additionalData.textOr key fallback) :
    (method.propertiesUnder call).textOr key fallback = method.preferred call key fallback := by
  unfold Bag.textOr Bag.text? at own
  unfold Bag.textOr preferred Bag.text?
  rw [get?_propertiesUnder h]
  cases hget : call.get? key with
  | none =>
    rw [Option.none_or, own]
    rfl
  | some v =>
    rw [Option.some_or, Option.bind_some]
    cases htext : v.toText? with
    | none =>
      rw [Value.toText?_eq_none_iff] at htext
      have hstored := h.text?_stored (htext ▸ hget)
      unfold Bag.text? at hstored
      rw [hstored]
      rfl
    | some s => rfl

/-- Every text but the token is the one that is preferred. -/
theorem textOr_propertiesUnder (hkey : key ≠ Property.recurringDetailId)
    (fallback : Option String) :
    (method.propertiesUnder call).textOr key fallback = method.preferred call key fallback := by
  refine textOr_propertiesUnder_of_own h ?_
  unfold Bag.textOr Bag.text?
  rw [get?_properties hkey]

/-- So is the token. -/
theorem textOr_propertiesUnder_token :
    (method.propertiesUnder call).textOr Property.recurringDetailId method.token =
      method.preferred call Property.recurringDetailId method.token :=
  textOr_propertiesUnder_of_own h (textOr_properties method)

theorem text?_propertiesUnder (hkey : key ≠ Property.recurringDetailId) :
    (method.propertiesUnder call).text? key = method.preferred call key none := by
  rw [← textOr_propertiesUnder h hkey]
  exact (Option.or_none).symm

/-- Nothing is preferred under a name that the call gives as null. -/
theorem preferred_of_null (hnull : call.get? key = some .null) :
    method.preferred call key none = none := by
  unfold preferred
  rw [h.text?_stored hnull, Bag.text?, hnull]
  rfl

end Transparent

end PaymentMethod

/-! ## What is read from properties -/

/-- A text that has to be a whole number. Blank texts count as absent. -/
def wholeNumber (key : String) (text : Option String) : Outcome (Option Int) :=
  match text with
  | none => .ok none
  | some s =>
    if Text.isAllBlank s then .ok none
    else
      match Text.toInt? s with
      | some n => .ok (some n)
      | none => .error (Fault.invalid (key ++ " must be an integer, got " ++ Text.quoted s) key)

theorem Bag.int?_eq (bag : Bag) (key : String) : bag.int? key = wholeNumber key (bag.text? key) :=
  rfl

/-- How a field that the gateway is told is filled: by a property, or by what the account or the
payment method knows. -/
structure Reading (τ : Type) where
  /-- The name of the property. -/
  key : String
  /-- The field. -/
  field : τ → Option String
  /-- What is known besides. -/
  fallback : Account → PaymentMethod → Option String := fun _ _ => none

/-- How the fields of a shopper are filled. -/
def UserData.readings : List (Reading UserData) :=
  [{ key := Property.customerId, field := customerId
     fallback := fun account _ => (nonEmpty account.externalKey).or (some account.id) },
    { key := Property.email, field := email, fallback := fun account _ => account.email },
    { key := Property.firstName, field := firstName
      fallback := fun account _ => account.firstName },
    { key := Property.lastName, field := lastName, fallback := fun account _ => account.lastName },
    { key := Property.ip, field := ip },
    { key := Property.customerLocale, field := locale
      fallback := fun account _ => account.locale }]

namespace PaymentInfo

/-- How the texts among the circumstances of a payment are filled. -/
def readings : List (Reading PaymentInfo) :=
  [{ key := Property.country, field := country, fallback := fun account _ => account.country },
    { key := Property.recurringDetailId, field := recurringDetailId
      fallback := fun _ method => method.token },
    { key := Property.recurringType, field := recurringType },
    { key := Property.issuerCountry, field := issuerCountry },
    { key := Property.acquirer, field := acquirer },
    { key := Property.acquirerMerchantId, field := acquirerMerchantId },
    { key := Property.issuerAnswer, field := issuerAnswer },
    { key := Property.merchantData, field := merchantData },
    { key := Property.returnUrl, field := returnUrl },
    { key := Property.userAgent, field := userAgent },
    { key := Property.acceptHeader, field := acceptHeader },
    { key := Property.skin, field := skinCode },
    { key := Property.shipBeforeDate, field := shipBeforeDate },
    { key := Property.sessionValidity, field := sessionValidity },
    { key := Property.brandCode, field := brandCode },
    { key := Property.allowedMethods, field := allowedMethods },
    { key := Property.blockedMethods, field := blockedMethods }]

/-- How the whole numbers among them are filled. -/
def numbers : List (String × (PaymentInfo → Option Int)) :=
  [(Property.captureDelayHours, captureDelayHours), (Property.installments, installments),
    (Property.secureThreshold, secureThreshold)]

end PaymentInfo

/-- Whether what the gateway is told is, name by name, what is preferred. -/
structure Preferred (settings : GatewaySettings) (account : Account) (method : PaymentMethod)
    (call : Bag) (merchantAccount : Option String) (info : PaymentInfo) (user : UserData)
    (split : Option SplitSettlement) : Prop where
  /-- The texts about the shopper. -/
  shopper : ∀ r ∈ UserData.readings,
    r.field user = method.preferred call r.key (r.fallback account method)
  /-- The texts about the payment. -/
  texts : ∀ r ∈ PaymentInfo.readings,
    r.field info = method.preferred call r.key (r.fallback account method)
  /-- The whole numbers about the payment. -/
  numbers : ∀ n ∈ PaymentInfo.numbers,
    wholeNumber n.1 (method.preferred call n.1 none) = .ok (n.2 info)
  /-- Whether the shopper is absent. -/
  absent : info.continuousAuthentication =
    (method.preferred call Property.continuousAuthentication none).map Value.affirmative
  /-- The merchant account, by the property before the country. -/
  charged : merchantAccount = some (settings.merchantAccountFor info.country
    [(Property.merchantAccount, .ofText? (method.preferred call Property.merchantAccount none))])
  /-- The parts of the settlement. -/
  parts : ∀ name, (split.getD []).lookup name =
    (method.preferred call (Property.splitSettlement ++ name) none).map Value.text

section Congr

variable {x y : Bag}
  (same : ∀ key, key ≠ Property.recurringDetailId → splitSettlementName? key = none →
    x.text? key = y.text? key)
include same

/-- The shopper depends on texts alone, and not on those that split a settlement. -/
theorem UserData.ofProperties_congr (account : Option Account) :
    ofProperties account x = ofProperties account y := by
  simp (disch := decide) only [ofProperties, Bag.textOr, same]

/-- So do the circumstances of the payment. -/
theorem PaymentInfo.ofProperties_congr (account : Option Account) {token : Option String}
    (htoken : x.textOr Property.recurringDetailId token =
      y.textOr Property.recurringDetailId token) :
    ofProperties account token x = ofProperties account token y := by
  have hcountry : x.textOr Property.country (account.bind Account.country) =
      y.textOr Property.country (account.bind Account.country) := by
    simp (disch := decide) only [Bag.textOr, same]
  simp (disch := decide) only [ofProperties, Bag.int?_eq, htoken, hcountry, same]

/-- So does the merchant account. -/
theorem GatewaySettings.merchantAccountFor_congr (s : GatewaySettings) (country : Option String) :
    s.merchantAccountFor country x = s.merchantAccountFor country y := by
  simp (disch := decide) only [merchantAccountFor, same]

end Congr

/-! ## Parts of a settlement -/

/-- The short name of a property is what stands behind the common beginning. -/
theorem splitSettlementName?_eq_some_iff {key name : String} :
    splitSettlementName? key = some name ↔ key = Property.splitSettlement ++ name := by
  have hlist : ∀ mark cs rest : List Char,
      (mark.isPrefixOf cs = true ∧ cs.drop mark.length = rest) ↔ cs = mark ++ rest := by
    intro mark cs rest
    rw [List.isPrefixOf_iff_prefix]
    constructor
    · rintro ⟨⟨behind, rfl⟩, hrest⟩
      rw [List.drop_left] at hrest
      rw [hrest]
    · rintro rfl
      exact ⟨List.prefix_append _ _, List.drop_left⟩
  rw [← String.toList_inj, String.toList_append, ← hlist]
  unfold splitSettlementName?
  simp only
  split
  · rename_i hmark
    rw [Option.some.injEq, ← String.toList_inj, String.toList_ofList]
    simp [hmark]
  · rename_i hmark
    simp [hmark]

/-- The token stands for no part. -/
theorem splitSettlementName?_token : splitSettlementName? Property.recurringDetailId = none := by
  decide

namespace SplitSettlement

/-- The part that a property stands for, if it stands for one. -/
def partOf? (entry : String × Value) : Option (String × Value) := do
  let name ← splitSettlementName? entry.1
  let s ← entry.2.toText?
  some (name, Value.text s)

theorem ofProperties_eq (properties : Bag) : ofProperties properties =
    if (properties.filterMap partOf?).isEmpty then none else some (properties.filterMap partOf?) :=
  rfl

/-- Properties that stand for no part do not matter. -/
theorem filterMap_filter {properties : Bag} {p : String × Value → Bool}
    (h : ∀ entry ∈ properties, p entry = false → partOf? entry = none) :
    (properties.filter p).filterMap partOf? = properties.filterMap partOf? := by
  induction properties with
  | nil => rfl
  | cons entry properties ih =>
    obtain ⟨hfirst, hrest⟩ := List.forall_mem_cons.1 h
    rw [List.filter_cons]
    split
    · rw [List.filterMap_cons, List.filterMap_cons, ih hrest]
    · rename_i hp
      rw [List.filterMap_cons, hfirst (Bool.eq_false_iff.2 hp), ih hrest]

/-- A part is found under its short name as the property is found under its long one. -/
theorem lookup_filterMap {properties : Bag} (h : properties.Distinct) (name : String) :
    (properties.filterMap partOf?).lookup name =
      (properties.text? (Property.splitSettlement ++ name)).map Value.text := by
  induction properties with
  | nil => rfl
  | cons entry properties ih =>
    obtain ⟨hfirst, hrest⟩ : entry.1 ∉ properties.map Prod.fst ∧ Bag.Distinct properties :=
      List.nodup_cons.1 h
    unfold Bag.text? at ih ⊢
    rw [List.filterMap_cons, Bag.get?_cons]
    by_cases hkey : Property.splitSettlement ++ name = entry.1
    · have hname := splitSettlementName?_eq_some_iff.2 hkey.symm
      rw [if_pos hkey]
      cases htext : entry.2.toText? with
      | none =>
        have hpart : partOf? entry = none := by simp [partOf?, hname, htext]
        rw [hpart, ih hrest, hkey, Bag.get?_eq_none hfirst, Option.bind_some, htext]
        rfl
      | some s =>
        have hpart : partOf? entry = some (name, .text s) := by simp [partOf?, hname, htext]
        rw [hpart, Option.bind_some, htext]
        simp
    · rw [if_neg hkey]
      cases hpart : partOf? entry with
      | none => exact ih hrest
      | some part =>
        obtain ⟨short, value⟩ := part
        have hother : name ≠ short := by
          rintro rfl
          simp only [partOf?, Option.bind_eq_bind, Option.bind_eq_some_iff] at hpart
          obtain ⟨other, hname, s, -, hpart⟩ := hpart
          cases hpart
          exact hkey (splitSettlementName?_eq_some_iff.1 hname).symm
        simp only [List.lookup_cons, beq_eq_false_iff_ne.2 hother]
        exact ih hrest

theorem lookup_ofProperties {properties : Bag} (h : properties.Distinct) (name : String) :
    ((ofProperties properties).getD []).lookup name =
      (properties.text? (Property.splitSettlement ++ name)).map Value.text := by
  rw [← lookup_filterMap h, ofProperties_eq]
  split
  · rename_i hempty
    rw [List.isEmpty_iff.1 hempty]
    rfl
  · rfl

/-- Whether a name may be that of a part: it is not that of the token, nor given as null by a
call. -/
def mayBePart (call : Bag) (key : String) : Bool :=
  call.get? key != some .null && key != Property.recurringDetailId

/-- The other names stand for no part where nothing is preferred for what the call gives as null. -/
theorem filterMap_propertiesUnder {method : PaymentMethod} {call given : Bag}
    (h : method.Transparent given)
    (hsilent : ∀ key, call.get? key = some .null → method.preferred given key none = none) :
    ((method.propertiesUnder given).filter fun entry => mayBePart call entry.1).filterMap partOf? =
      (method.propertiesUnder given).filterMap partOf? := by
  refine filterMap_filter fun entry hentry hleft => ?_
  by_cases htoken : entry.1 = Property.recurringDetailId
  · simp [partOf?, htoken, splitSettlementName?_token]
  · have hnull : call.get? entry.1 = some .null := by simpa [mayBePart, htoken] using hleft
    have htext := PaymentMethod.text?_propertiesUnder h htoken
    rw [hsilent entry.1 hnull, Bag.text?,
      Bag.get?_of_mem (PaymentMethod.distinct_propertiesUnder h) hentry, Option.bind_some] at htext
    simp [partOf?, htext]

end SplitSettlement

/-! ## Everything that is told -/

section Told

variable {method : PaymentMethod} {call : Bag} (h : method.Transparent call)
include h

/-- Without its nulls, a call says the same over a stored payment method. -/
theorem PaymentMethod.text?_propertiesUnder_withoutNulls {key : String}
    (hkey : key ≠ Property.recurringDetailId) :
    (method.propertiesUnder call.withoutNulls).text? key =
      (method.propertiesUnder call).text? key := by
  rw [text?_propertiesUnder h.withoutNulls hkey, text?_propertiesUnder h hkey,
    preferred_withoutNulls h.given]

theorem UserData.ofProperties_withoutNulls (account : Option Account) :
    ofProperties account (method.propertiesUnder call.withoutNulls) =
      ofProperties account (method.propertiesUnder call) :=
  ofProperties_congr
    (fun _ hkey _ => PaymentMethod.text?_propertiesUnder_withoutNulls h hkey) account

theorem PaymentInfo.ofProperties_withoutNulls (account : Option Account) :
    ofProperties account method.token (method.propertiesUnder call.withoutNulls) =
      ofProperties account method.token (method.propertiesUnder call) := by
  refine ofProperties_congr (fun _ hkey _ => ?_) account ?_
  · exact PaymentMethod.text?_propertiesUnder_withoutNulls h hkey
  · rw [PaymentMethod.textOr_propertiesUnder_token h.withoutNulls,
      PaymentMethod.textOr_propertiesUnder_token h, PaymentMethod.preferred_withoutNulls h.given]

theorem GatewaySettings.merchantAccountFor_withoutNulls (s : GatewaySettings)
    (country : Option String) :
    s.merchantAccountFor country (method.propertiesUnder call.withoutNulls) =
      s.merchantAccountFor country (method.propertiesUnder call) :=
  s.merchantAccountFor_congr
    (fun _ hkey _ => PaymentMethod.text?_propertiesUnder_withoutNulls h hkey) country

/-- What a call says over a stored payment method is what is preferred. -/
theorem Preferred.of_ofProperties (settings : GatewaySettings) {account : Account}
    {info : PaymentInfo}
    (hinfo : PaymentInfo.ofProperties (some account) method.token (method.propertiesUnder call) =
      .ok info) :
    Preferred settings account method call
      (some (settings.merchantAccountFor info.country (method.propertiesUnder call))) info
      (UserData.ofProperties (some account) (method.propertiesUnder call))
      (SplitSettlement.ofProperties (method.propertiesUnder call)) := by
  have htext (key : String) (hkey : key ≠ Property.recurringDetailId) :=
    PaymentMethod.text?_propertiesUnder h hkey
  have htextOr (key : String) (hkey : key ≠ Property.recurringDetailId) (fallback) :=
    PaymentMethod.textOr_propertiesUnder h hkey fallback
  obtain ⟨delay, hdelay, hrest⟩ := Outcome.exists_of_bind_ok hinfo
  obtain ⟨installments, hinstallments, hrest⟩ := Outcome.exists_of_bind_ok hrest
  obtain ⟨threshold, hthreshold, hrest⟩ := Outcome.exists_of_bind_ok hrest
  cases hrest
  refine ⟨?_, ?_, ?_, ?_, ?_, ?_⟩
  · simp only [UserData.readings, List.forall_mem_cons]
    exact ⟨htextOr _ (by decide) _, htextOr _ (by decide) _, htextOr _ (by decide) _,
      htextOr _ (by decide) _, htext _ (by decide), htextOr _ (by decide) _, nofun⟩
  · simp only [PaymentInfo.readings, List.forall_mem_cons]
    refine ⟨htextOr _ (by decide) _, PaymentMethod.textOr_propertiesUnder_token h, ?_⟩
    refine ⟨htext _ (by decide), htext _ (by decide), htext _ (by decide), htext _ (by decide),
      htext _ (by decide), htext _ (by decide), htext _ (by decide), htext _ (by decide), ?_⟩
    exact ⟨htext _ (by decide), htext _ (by decide), htext _ (by decide), htext _ (by decide),
      htext _ (by decide), htext _ (by decide), htext _ (by decide), nofun⟩
  · simp only [PaymentInfo.numbers, List.forall_mem_cons]
    rw [Bag.int?_eq, htext Property.captureDelayHours (by decide)] at hdelay
    rw [Bag.int?_eq, htext Property.installments (by decide)] at hinstallments
    rw [Bag.int?_eq, htext Property.secureThreshold (by decide)] at hthreshold
    exact ⟨hdelay, hinstallments, hthreshold, nofun⟩
  · exact congrArg (Option.map Value.affirmative) (htext _ (by decide))
  · unfold GatewaySettings.merchantAccountFor
    rw [htext Property.merchantAccount (by decide)]
    cases method.preferred call Property.merchantAccount none <;> rfl
  · intro name
    have hname : Property.splitSettlement ++ name ≠ Property.recurringDetailId := by
      intro heq
      have hpart := splitSettlementName?_eq_some_iff.2 heq.symm
      rw [splitSettlementName?_token] at hpart
      cases hpart
    rw [SplitSettlement.lookup_ofProperties (PaymentMethod.distinct_propertiesUnder h),
      htext _ hname]

/-- Without its nulls a call keeps the names of parts that it does not give as null. -/
theorem SplitSettlement.filter_propertiesUnder :
    (method.propertiesUnder call.withoutNulls).filter (fun entry => mayBePart call entry.1) =
      (method.propertiesUnder call).filter fun entry => mayBePart call entry.1 := by
  have hcall : call.withoutNulls.filter (fun entry => mayBePart call entry.1) =
      call.filter fun entry => mayBePart call entry.1 := by
    unfold Bag.withoutNulls
    rw [List.filter_filter]
    refine List.filter_congr fun entry hentry => ?_
    have hget := Bag.get?_of_mem h.given hentry
    cases hnull : entry.2 <;> simp [mayBePart, hget, hnull, Value.isNull]
  rw [PaymentMethod.propertiesUnder_eq h.withoutNulls, PaymentMethod.propertiesUnder_eq h,
    Bag.filter_onto, Bag.filter_onto, hcall]

/-- Without its nulls a call tells the same parts in the same order. -/
theorem SplitSettlement.ofProperties_withoutNulls :
    ofProperties (method.propertiesUnder call.withoutNulls) =
      ofProperties (method.propertiesUnder call) := by
  have hsilent : ∀ key, call.get? key = some .null → method.preferred call key none = none :=
    fun _ hnull => PaymentMethod.preferred_of_null h hnull
  have hsilent' : ∀ key, call.get? key = some .null →
      method.preferred call.withoutNulls key none = none := by
    intro key hnull
    rw [PaymentMethod.preferred_withoutNulls h.given]
    exact hsilent key hnull
  have hparts : (method.propertiesUnder call.withoutNulls).filterMap partOf? =
      (method.propertiesUnder call).filterMap partOf? := by
    rw [← filterMap_propertiesUnder h.withoutNulls hsilent', filter_propertiesUnder h,
      filterMap_propertiesUnder h hsilent]
  rw [ofProperties_eq, ofProperties_eq, hparts]

end Told

end CardPayments
