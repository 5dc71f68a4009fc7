import CardPayments.Checked
import Mathlib.Data.List.Forall2

/-!
# Checking all or nothing

A check of several parts has a value only if every part has one, and otherwise the defects of all
parts, in order. A list is checked like its items, each of which bears its number.
-/

namespace CardPayments

/-- A defect one step further down. -/
def Defect.below (step : PathStep) (d : Defect) : Defect := { d with path := step :: d.path }

namespace Checked

variable {α β : Type}

/-- The defects, of which a value has none. -/
def found : Checked α → List Defect
  | .ok _ => []
  | .defects ds => ds

/-- What has no value has its defects. -/
theorem eq_defects {x : Checked α} (h : ∀ a, x ≠ .ok a) : x = .defects x.found := by
  cases x with
  | ok a => exact absurd rfl (h a)
  | defects ds => rfl

theorem apply_eq_ok_iff {f : Checked (α → β)} {x : Checked α} {b : β} :
    apply f x = .ok b ↔ ∃ g a, f = .ok g ∧ x = .ok a ∧ g a = b := by
  cases f <;> cases x <;> simp [apply]

theorem seq_eq_ok_iff {f : Checked (α → β)} {x : Checked α} {b : β} :
    f <*> x = .ok b ↔ ∃ g a, f = .ok g ∧ x = .ok a ∧ g a = b := apply_eq_ok_iff

theorem map_eq_ok_iff {f : α → β} {x : Checked α} {b : β} :
    map f x = .ok b ↔ ∃ a, x = .ok a ∧ f a = b := by
  cases x <;> simp [map]

theorem fmap_eq_ok_iff {f : α → β} {x : Checked α} {b : β} :
    f <$> x = .ok b ↔ ∃ a, x = .ok a ∧ f a = b := by
  change apply (.ok f) x = .ok b ↔ _
  simp [apply_eq_ok_iff]

theorem under_eq_ok_iff {step : PathStep} {x : Checked α} {a : α} :
    under step x = .ok a ↔ x = .ok a := by
  cases x <;> simp [under]

theorem found_apply (f : Checked (α → β)) (x : Checked α) :
    (apply f x).found = f.found ++ x.found := by
  cases f <;> cases x <;> simp [apply, found]

theorem found_map (f : α → β) (x : Checked α) : (map f x).found = x.found := by
  cases x <;> rfl

theorem found_under (step : PathStep) (x : Checked α) :
    (under step x).found = x.found.map (·.below step) := by
  cases x <;> rfl

/-- A field that has to be there passes if it is there and its value does. -/
theorem required_eq_ok_iff {name : String} {check : Value → Checked α} {v : Option Value} {a : α} :
    required name check v = .ok a ↔ ∃ w, v = some w ∧ check w = .ok a := by
  cases v with
  | none => simp [required, fail, under]
  | some v => simp [required, under_eq_ok_iff]

/-- A field is checked alike where its values are. -/
theorem required_congr {name : String} {check : Value → Checked α} {v w : Option Value}
    (h : Option.Rel (fun v w => check v = check w) v w) :
    required name check v = required name check w := by
  cases h with
  | none => rfl
  | some hcheck => exact congrArg (under (.field name)) hcheck

/-- So is a field with a default. -/
theorem withDefault_congr {name : String} {default : α} {check : Value → Checked α}
    {v w : Option Value} (h : Option.Rel (fun v w => check v = check w) v w) :
    withDefault name default check v = withDefault name default check w := by
  cases h with
  | none => rfl
  | some hcheck => exact congrArg (under (.field name)) hcheck

/-! ## Lists -/

/-- Items are checked alike together if each is. -/
theorem eachFrom_congr {check : α → Checked β} {first : Nat} {as bs : List α}
    (h : List.Forall₂ (fun a b => check a = check b) as bs) :
    eachFrom check first as = eachFrom check first bs := by
  induction h generalizing first with
  | nil => rfl
  | cons hcheck _ ih => rw [eachFrom, eachFrom, hcheck, ih]

/-- Items pass together if each does. -/
theorem eachFrom_eq_ok_iff {check : α → Checked β} {first : Nat} {as : List α} {bs : List β} :
    eachFrom check first as = .ok bs ↔ List.Forall₂ (fun a b => check a = .ok b) as bs := by
  induction as generalizing first bs with
  | nil => simp [eachFrom, eq_comm]
  | cons a as ih =>
    simp only [eachFrom, apply_eq_ok_iff, map_eq_ok_iff, under_eq_ok_iff, ih,
      List.forall₂_cons_left_iff]
    constructor
    · rintro ⟨_, bs, ⟨b, hb, rfl⟩, hbs, rfl⟩
      exact ⟨b, bs, hb, hbs, rfl⟩
    · rintro ⟨b, bs, hb, hbs, rfl⟩
      exact ⟨_, bs, ⟨b, hb, rfl⟩, hbs, rfl⟩

/-- Otherwise they have the defects of each, under its number. -/
theorem found_eachFrom (check : α → Checked β) (first : Nat) (as : List α) :
    (eachFrom check first as).found = (as.zipIdx first).flatMap fun entry =>
      (check entry.1).found.map (·.below (.index entry.2)) := by
  induction as generalizing first with
  | nil => rfl
  | cons a as ih =>
    rw [eachFrom, found_apply, found_map, found_under, ih, List.zipIdx_cons, List.flatMap_cons]

end Checked

end CardPayments
