import CardPayments.HostedPage
import CardPayments.Proofs.Precedence

/-!
# The fields of a form

An unsigned form has its fixed fields, as far as they have values, and behind them the properties
that split the settlement, as far as they have values. The beginning of their names is taken off on
the way to the page and put back there, so that they arrive under the names that they came with; and
none of them has the name of a fixed field.
-/

namespace CardPayments

/-! ## Properties that split a settlement -/

/-- Whether a name begins as the names of split-settlement properties do. -/
def Property.isSplit (name : String) : Bool := (splitSettlementName? name).isSome

/-- Entries under other names do not matter to a name. -/
theorem Bag.get?_filter {bag : Bag} {p : String → Bool} {key : String} (h : p key = true) :
    get? (bag.filter fun entry => p entry.1) key = get? bag key := by
  induction bag with
  | nil => rfl
  | cons entry bag ih =>
    rw [List.filter_cons, get?_cons]
    split
    · rw [get?_cons, ih]
    · rename_i hentry
      have hne : key ≠ entry.1 := fun hkey => hentry (hkey ▸ h)
      rw [ih, if_neg hne]

/-- A property that splits the settlement and has a value, with its text. -/
def Bag.splitText? (entry : String × Value) : Option (String × String) :=
  if Property.isSplit entry.1 then entry.2.toText?.map fun s => (entry.1, s) else none

/-- The properties that split the settlement and have values, with their texts. -/
def Bag.splitTexts (bag : Bag) : FormFields := bag.filterMap splitText?

/-- They are there under their own names. -/
theorem Bag.splitText?_eq_some_iff {entry : String × Value} {name s : String} :
    splitText? entry = some (name, s) ↔
      Property.isSplit name = true ∧ entry.1 = name ∧ entry.2.toText? = some s := by
  unfold splitText?
  split
  · rename_i hsplit
    cases htext : entry.2.toText? with
    | none => simp
    | some text =>
      simp only [Option.map_some, Option.some.injEq, Prod.mk.injEq]
      constructor
      · rintro ⟨rfl, rfl⟩
        exact ⟨hsplit, rfl, rfl⟩
      · rintro ⟨-, rfl, rfl⟩
        exact ⟨rfl, rfl⟩
  · rename_i hsplit
    simp only [reduceCtorEq, false_iff]
    rintro ⟨hname, rfl, -⟩
    exact hsplit hname

/-- All of them have names that begin so. -/
theorem Bag.isSplit_of_mem {bag : Bag} {field : String × String} (h : field ∈ bag.splitTexts) :
    Property.isSplit field.1 = true := by
  obtain ⟨entry, -, htext⟩ := List.mem_filterMap.1 h
  exact (splitText?_eq_some_iff.1 htext).1

/-- What is made of some entries under their names has some of their names. -/
theorem FormFields.names_filterMap {α : Type} {f : α → Option (String × String)} {name : α → String}
    (h : ∀ entry field, f entry = some field → field.1 = name entry) (entries : List α) :
    ((entries.filterMap f).map Prod.fst).Sublist (entries.map name) := by
  induction entries with
  | nil => exact .slnil
  | cons entry entries ih =>
    rw [List.filterMap_cons]
    cases hfield : f entry with
    | none => exact ih.cons _
    | some field =>
      rw [List.map_cons, List.map_cons, h entry field hfield]
      exact ih.cons_cons _

/-- The names of those in a table are some of its names. -/
theorem Bag.names_splitTexts (bag : Bag) :
    (bag.splitTexts.map Prod.fst).Sublist (bag.map Prod.fst) :=
  FormFields.names_filterMap (fun _ _ h => (splitText?_eq_some_iff.1 h).2.1.symm) bag

namespace HostedPage

/-! ## Fields that have values -/

theorem present_append (a b : List (String × Option String)) :
    present (a ++ b) = present a ++ present b := List.filterMap_append

/-- The names of fields that have values are some of the names. -/
theorem names_present (fields : List (String × Option String)) :
    ((present fields).map Prod.fst).Sublist (fields.map Prod.fst) := by
  refine FormFields.names_filterMap (fun field made hmade => ?_) fields
  obtain ⟨s, -, rfl⟩ := Option.map_eq_some_iff.1 hmade
  rfl

/-- A name that no field has is not there. -/
theorem lookup_present_of_not_mem {fields : List (String × Option String)} {name : String}
    (h : name ∉ fields.map Prod.fst) : (present fields).lookup name = none := by
  refine List.lookup_eq_none_iff.2 fun field hfield => bne_iff_ne.2 fun heq => h ?_
  rw [heq]
  exact (names_present fields).subset (List.mem_map_of_mem hfield)

/-- Where every name is there once, a field is found under its name if it has a value. -/
theorem lookup_present {fields : List (String × Option String)} (h : (fields.map Prod.fst).Nodup)
    {field : String × Option String} (hfield : field ∈ fields) :
    (present fields).lookup field.1 = field.2 := by
  induction fields with
  | nil => cases hfield
  | cons first fields ih =>
    obtain ⟨hfirst, hrest⟩ := List.nodup_cons.1 h
    rcases List.mem_cons.1 hfield with rfl | hfield
    · have habsent := lookup_present_of_not_mem hfirst
      unfold present at habsent ⊢
      rw [List.filterMap_cons]
      cases hvalue : field.2 with
      | none => simpa [hvalue] using habsent
      | some s => simp
    · have hne : field.1 ≠ first.1 := fun heq => hfirst (heq ▸ List.mem_map_of_mem hfield)
      have hfound := ih hrest hfield
      unfold present at hfound ⊢
      rw [List.filterMap_cons]
      cases first.2 with
      | none => exact hfound
      | some s => simpa [List.lookup_cons, beq_eq_false_iff_ne.2 hne] using hfound

/-- The page puts back what has been taken off the name of a part of a settlement. -/
theorem part_restored (entry : String × Value) :
    (SplitSettlement.partOf? entry).bind (fun part =>
      part.2.toText?.map fun s => (Property.splitSettlement ++ part.1, s)) =
      Bag.splitText? entry := by
  unfold SplitSettlement.partOf? Bag.splitText? Property.isSplit
  cases hshort : splitSettlementName? entry.1 with
  | none => rfl
  | some short =>
    cases htext : entry.2.toText? with
    | none => rfl
    | some s =>
      rw [splitSettlementName?_eq_some_iff.1 hshort]
      rfl

/-- What the page makes of the parts of a settlement are the properties that they come from. -/
theorem present_splitFields (properties : Bag) :
    present (splitFields (SplitSettlement.ofProperties properties)) = properties.splitTexts := by
  have hparts : (SplitSettlement.ofProperties properties).getD [] =
      properties.filterMap SplitSettlement.partOf? := by
    rw [SplitSettlement.ofProperties_eq]
    split
    · rename_i hempty
      rw [List.isEmpty_iff.1 hempty]
      rfl
    · rfl
  unfold splitFields present Bag.splitTexts
  rw [hparts, List.filterMap_map, List.filterMap_filterMap]
  exact List.filterMap_congr fun entry _ => part_restored entry

/-! ## Forms -/

/-- Whether the fields of a form are its fixed fields and the properties that split the settlement,
as far as they have values, and nothing else. -/
structure Carries (fields : FormFields) (fixed : List (String × Option String))
    (properties : Bag) : Prop where
  /-- Every name is there once. -/
  names : (fields.map Prod.fst).Nodup
  /-- The fields with names of split-settlement properties are these properties. -/
  split : fields.filter (Property.isSplit ·.1) = properties.splitTexts
  /-- The other fields are the fixed ones. -/
  rest : fields.filter (!Property.isSplit ·.1) = present fixed
  /-- A fixed field is there with its value, and is left out without one. -/
  fixed : ∀ field ∈ fixed, fields.lookup field.1 = field.2

/-- Fixed fields that are there once and do not look like parts of a settlement can be told from
the parts. -/
theorem carries_present {fixed : List (String × Option String)} {properties : Bag}
    (once : (fixed.map Prod.fst).Nodup)
    (apart : ∀ name ∈ fixed.map Prod.fst, Property.isSplit name = false)
    (distinct : properties.Distinct) :
    Carries (present (fixed ++ splitFields (SplitSettlement.ofProperties properties))) fixed
      properties := by
  have hnot : ∀ field ∈ present fixed, Property.isSplit field.1 = false := fun field hfield =>
    apart _ ((names_present fixed).subset (List.mem_map_of_mem hfield))
  have hsplit : ∀ field ∈ properties.splitTexts, Property.isSplit field.1 = true :=
    fun field hfield => Bag.isSplit_of_mem hfield
  rw [present_append, present_splitFields]
  constructor
  case names =>
    rw [List.map_append, List.nodup_append]
    refine ⟨(names_present fixed).nodup once, properties.names_splitTexts.nodup distinct, ?_⟩
    intro name hname other hother heq
    obtain ⟨field, hfield, rfl⟩ := List.mem_map.1 hname
    obtain ⟨part, hpart, rfl⟩ := List.mem_map.1 hother
    have hboth := hnot field hfield
    rw [heq, hsplit part hpart] at hboth
    cases hboth
  case split =>
    rw [List.filter_append, List.filter_eq_self.2 hsplit, List.filter_eq_nil_iff.2 fun field h => by
      rw [hnot field h]; exact Bool.false_ne_true]
    rfl
  case rest =>
    rw [List.filter_append, List.filter_eq_self.2 fun field h => by rw [hnot field h]; rfl,
      List.filter_eq_nil_iff.2 fun field h => by rw [hsplit field h]; exact Bool.false_ne_true]
    exact List.append_nil _
  case fixed =>
    intro field hfield
    have habsent : (properties.splitTexts).lookup field.1 = none := by
      refine List.lookup_eq_none_iff.2 fun part hpart => bne_iff_ne.2 fun heq => ?_
      have hfixed := apart _ (List.mem_map_of_mem hfield)
      rw [heq, hsplit part hpart] at hfixed
      cases hfixed
    rw [List.lookup_append, lookup_present once hfield, habsent, Option.or_none]

/-- The fixed fields of an unsigned form are there once. -/
theorem nodup_fixedFields (merchantAccount : Option String) (payment : PaymentData)
    (currency : String) (units : Int) (user : UserData) :
    ((fixedFields merchantAccount payment currency units user).map Prod.fst).Nodup := by
  simp [fixedFields]

/-- None of them looks like a part of a settlement. -/
theorem isSplit_fixedFields {merchantAccount : Option String} {payment : PaymentData}
    {currency : String} {units : Int} {user : UserData} {name : String}
    (h : name ∈ (fixedFields merchantAccount payment currency units user).map Prod.fst) :
    Property.isSplit name = false := by
  simp only [fixedFields, List.map_cons, List.map_nil] at h
  revert name
  decide

/-- An unsigned form needs an amount that can be told in minor units of its currency, and has its
fixed fields and the parts of the settlement then. -/
theorem unsignedFields_eq_ok_iff {merchantAccount : Option String} {payment : PaymentData}
    {user : UserData} {split : Option SplitSettlement} {fields : FormFields} :
    unsignedFields merchantAccount payment user split = .ok fields ↔
      ∃ amount currency units, payment.amount = some amount ∧ payment.currency = some currency ∧
        MinorUnit.ofAmount amount currency = .ok units ∧
        fields = present (fixedFields merchantAccount payment currency units user ++
          splitFields split) := by
  unfold unsignedFields
  cases hamount : payment.amount with
  | none => simp
  | some amount =>
    cases hcurrency : payment.currency with
    | none => simp
    | some currency =>
      cases hunits : MinorUnit.ofAmount amount currency with
      | error e => simp [hunits]
      | ok units => simp [hunits, eq_comm]

/-- An unsigned form carries the parts of a settlement beside its fixed fields. -/
theorem carries_unsignedFields (merchantAccount : Option String) (payment : PaymentData)
    (currency : String) (units : Int) (user : UserData) {properties : Bag}
    (distinct : properties.Distinct) :
    Carries (present (fixedFields merchantAccount payment currency units user ++
      splitFields (SplitSettlement.ofProperties properties)))
      (fixedFields merchantAccount payment currency units user) properties :=
  carries_present (nodup_fixedFields _ _ _ _ _) (fun _ h => isSplit_fixedFields h) distinct

end HostedPage

end CardPayments
