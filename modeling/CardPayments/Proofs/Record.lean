import CardPayments.Record
import Mathlib.Data.List.Forall2

/-!
# Facts about outcomes and records

Computations one after another have a result only if each has one. A record holds what its attempt
says, whatever the response, and beside it what the response brings.
-/

namespace CardPayments

/-- One computation after another has a result only if both have. -/
theorem Outcome.exists_of_bind_ok {ε α β : Type} {x : Except ε α} {f : α → Except ε β} {b : β}
    (h : (x >>= f) = .ok b) : ∃ a, x = .ok a ∧ f a = .ok b := by
  cases x with
  | error e => cases h
  | ok a => exact ⟨a, rfl, h⟩

/-- What has a result has one. -/
theorem Outcome.exists_of_isOk {α : Type} {x : Outcome α} (h : x.isOk = true) :
    ∃ a, x = .ok a := by
  cases x with
  | error e => cases h
  | ok a => exact ⟨a, rfl⟩

theorem Outcome.eq_ok_of_toOption {ε α : Type} {x : Except ε α} {a : α}
    (h : x.toOption = some a) : x = .ok a := by
  cases x with
  | error e => cases h
  | ok b =>
    cases h
    rfl

/-- Outcomes are all there, in order, if each is. -/
theorem mapM_eq_ok_iff {α β : Type} {f : α → Outcome β} {as : List α} {bs : List β} :
    as.mapM f = .ok bs ↔ List.Forall₂ (fun a b => f a = .ok b) as bs := by
  constructor
  · intro h
    induction as generalizing bs with
    | nil =>
      rw [List.mapM_nil] at h
      obtain rfl := Except.ok.inj h
      exact .nil
    | cons a as ih =>
      rw [List.mapM_cons] at h
      obtain ⟨b, hb, h⟩ := Outcome.exists_of_bind_ok h
      obtain ⟨rest, hrest, h⟩ := Outcome.exists_of_bind_ok h
      obtain rfl := Except.ok.inj h
      exact .cons hb (ih hrest)
  · intro h
    induction h with
    | nil => rfl
    | cons ha _ ih =>
      rw [List.mapM_cons, ha, ih]
      rfl

namespace ResponseRecord

/-- A record holds what the response brings and the moment of recording. -/
theorem fill_of_ofResponse {a : Attempt} {r : GatewayResponse} {now : Moment}
    {record : ResponseRecord} (h : ofResponse a r now = .ok record) :
    ∃ filled createdAt, (blank a now).fill r = .ok filled ∧
      record = { filled with createdAt } := by
  obtain ⟨filled, hfill, h⟩ := Outcome.exists_of_bind_ok h
  obtain ⟨universal, -, h⟩ := Outcome.exists_of_bind_ok h
  exact ⟨filled, some universal, hfill, (Except.ok.inj h).symm⟩

/-- A record bears the moment of recording, in universal time. -/
theorem createdAt_of_ofResponse {a : Attempt} {r : GatewayResponse} {now : Moment}
    {record : ResponseRecord} (h : ofResponse a r now = .ok record) :
    ∃ universal, now.toUniversal = some universal ∧ record.createdAt = some universal := by
  obtain ⟨filled, -, h⟩ := Outcome.exists_of_bind_ok h
  obtain ⟨recorded, hrecorded, h⟩ := Outcome.exists_of_bind_ok h
  obtain rfl := Except.ok.inj h
  unfold recordedMoment at hrecorded
  cases huniversal : now.toUniversal with
  | none =>
    rw [huniversal] at hrecorded
    cases hrecorded
  | some universal =>
    rw [huniversal] at hrecorded
    obtain rfl := Except.ok.inj hrecorded
    exact ⟨universal, rfl, rfl⟩

/-- Whether a record is one of an attempt. -/
structure For (record : ResponseRecord) (a : Attempt) : Prop where
  /-- The same account. -/
  account : record.accountId = a.accountId
  /-- The same payment. -/
  payment : record.paymentId = a.paymentId
  /-- The same transaction. -/
  transaction : record.transactionId = a.transactionId
  /-- The same type. -/
  kind : record.kind = a.kind
  /-- The same amount. -/
  amount : record.amount = a.amount
  /-- The same currency. -/
  currency : record.currency = a.currency

/-- Filling in a response leaves alone what comes from the attempt. -/
theorem for_of_fill {a : Attempt} {r : GatewayResponse} {now : Moment} {filled : ResponseRecord}
    (h : (blank a now).fill r = .ok filled) : filled.For a := by
  cases r <;> cases h <;> constructor <;> rfl

/-- The record of a response is one of its attempt. -/
theorem for_of_ofResponse {a : Attempt} {r : GatewayResponse} {now : Moment}
    {record : ResponseRecord} (h : ofResponse a r now = .ok record) : record.For a := by
  obtain ⟨filled, createdAt, hfill, rfl⟩ := fill_of_ofResponse h
  have hfor := for_of_fill hfill
  exact ⟨hfor.account, hfor.payment, hfor.transaction, hfor.kind, hfor.amount, hfor.currency⟩

/-- A record without its moment. -/
def undated (record : ResponseRecord) : ResponseRecord := { record with createdAt := none }

/-- The record of a response depends on the moment of recording only by bearing it. -/
theorem undated_of_ofResponse {a : Attempt} {r : GatewayResponse} {now later : Moment}
    {record again : ResponseRecord} (h : ofResponse a r now = .ok record)
    (h' : ofResponse a r later = .ok again) : record.undated = again.undated := by
  obtain ⟨filled, _, hfill, rfl⟩ := fill_of_ofResponse h
  obtain ⟨filled', _, hfill', rfl⟩ := fill_of_ofResponse h'
  cases r <;> cases hfill <;> cases hfill' <;> rfl

end ResponseRecord

end CardPayments
