import CardPayments.Engine.Form
import CardPayments.Proofs.Checked
import CardPayments.Proofs.Engine.Progress
import CardPayments.Proofs.Text.Letter
import Mathlib.Data.List.TakeWhile

/-!
# What the checks of amount and currency accept

Amounts are read from texts, and attempts are checked, long before the gateway is told about a
payment. Both checks give a verdict on everything but a NaN, and accept no negative amount. What
they accept can be told the gateway exactly if the amount is finite and the currency, which may be
empty where a reservation is released, is as long in upper case.
-/

namespace CardPayments

/-- Whether a check gives a verdict: it passes, or it refuses what the caller has put in. -/
def Outcome.GivesVerdict {α : Type} (x : Outcome α) : Prop :=
  (∃ a, x = .ok a) ∨ ∃ message field, x = .error (Fault.invalid message field)

theorem Outcome.givesVerdict_ok {α : Type} (a : α) : GivesVerdict (.ok a) := Or.inl ⟨a, rfl⟩

theorem Outcome.givesVerdict_invalid {α : Type} (message field : String) :
    GivesVerdict (.error (Fault.invalid message field) : Outcome α) := Or.inr ⟨message, field, rfl⟩

/-- No verdict is given where arithmetic fails. -/
theorem Outcome.not_givesVerdict_arithmetic {α : Type} (e : ArithmeticFault) :
    ¬ GivesVerdict (.error (.arithmetic e) : Outcome α) := by
  rintro (⟨a, ha⟩ | ⟨message, field, he⟩)
  · cases ha
  · cases he

/-- Checks one after another give a verdict if each does where it is reached. -/
theorem Outcome.GivesVerdict.bind {α β : Type} {x : Outcome α} {f : α → Outcome β}
    (hx : GivesVerdict x) (hf : ∀ a, x = .ok a → GivesVerdict (f a)) : GivesVerdict (x >>= f) := by
  rcases hx with ⟨a, rfl⟩ | ⟨message, field, rfl⟩
  · exact hf a rfl
  · exact givesVerdict_invalid message field

namespace Decimal

/-- A number can be compared with zero, a NaN cannot. -/
theorem isNegative?_cases (d : Decimal) : d.isNumber = false ∧ d.isNegative? = none ∨
    d.isNumber = true ∧ (d.isNegative? = some true ∨ d.isNegative? = some false) := by
  cases d with
  | finite negative coefficient exponent =>
    refine Or.inr ⟨rfl, ?_⟩
    cases hsign : negative && coefficient != 0 <;> simp [isNegative?, hsign]
  | infinite negative => cases negative <;> simp [isNegative?, isNumber]
  | nan negative signaling payload => exact Or.inl ⟨rfl, rfl⟩

/-- Nothing is left of a text of blanks, and nothing is read from it. -/
theorem ofText?_of_isAllBlank {s : String} (h : Text.isAllBlank s = true) : ofText? s = none := by
  have hstrip : Text.strip Text.isBlank s.toList = [] := by
    have hdrop : s.toList.dropWhile Text.isBlank = [] :=
      List.dropWhile_eq_nil_iff.2 (List.all_eq_true.1 h)
    rw [Text.strip, hdrop]
    rfl
  unfold ofText? normalized
  rw [hstrip]
  rfl

end Decimal

/-! ## Amounts -/

/-- What comes of reading an amount: a text that reads as no number or as a negative one is refused,
and a NaN cannot be compared. -/
inductive Reads (raw : Option String) : Outcome Decimal → Prop
  /-- The text is refused. -/
  | refused {message field : String} (number : ∀ d, raw.bind Decimal.ofText? = some d →
      d.isNumber = true) : Reads raw (.error (Fault.invalid message field))
  /-- The text reads as a NaN. -/
  | nan {d : Decimal} (reads : raw.bind Decimal.ofText? = some d) (nan : d.isNumber = false) :
      Reads raw (.error (.arithmetic .invalidOperation))
  /-- The text reads as an amount. -/
  | accepted {d : Decimal} (reads : raw.bind Decimal.ofText? = some d) (number : d.isNumber = true)
      (nonnegative : d.isNegative? = some false) : Reads raw (.ok d)

theorem reads_readAmount (raw : Option String) : Reads raw (readAmount raw) := by
  cases raw with
  | none => exact .refused (fun d hd => by cases hd)
  | some s =>
    unfold readAmount
    by_cases hblank : Text.isAllBlank s = true
    · have hnone := Decimal.ofText?_of_isAllBlank hblank
      simp only [if_pos hblank]
      exact .refused (fun d hd => by simp [hnone] at hd)
    · simp only [if_neg hblank]
      cases hread : Decimal.ofText? s with
      | none => exact .refused (fun d hd => by simp [hread] at hd)
      | some d =>
        rcases d.isNegative?_cases with ⟨hnan, hsign⟩ | ⟨hnumber, hsign | hsign⟩
        · simp only [hsign]
          exact .nan hread hnan
        · simp only [hsign]
          refine .refused fun e he => ?_
          obtain rfl := Option.some.inj (hread.symm.trans he)
          exact hnumber
        · simp only [hsign]
          exact .accepted hread hnumber hsign

/-- Reading an amount gives a verdict on every text that does not read as a NaN. -/
theorem givesVerdict_readAmount_iff (raw : Option String) :
    Outcome.GivesVerdict (readAmount raw) ↔
      ∀ d, raw.bind Decimal.ofText? = some d → d.isNumber = true := by
  have h := reads_readAmount raw
  generalize readAmount raw = x at h ⊢
  cases h with
  | refused number => exact iff_of_true (Outcome.givesVerdict_invalid _ _) number
  | nan reads nan =>
    refine iff_of_false (Outcome.not_givesVerdict_arithmetic _) fun number => ?_
    rw [number _ reads] at nan
    cases nan
  | accepted reads number nonnegative =>
    refine iff_of_true (Outcome.givesVerdict_ok _) fun d hd => ?_
    obtain rfl := Option.some.inj (reads.symm.trans hd)
    exact number

/-- An amount that is read is not negative. -/
theorem isNegative?_of_readAmount {raw : Option String} {d : Decimal} (h : readAmount raw = .ok d) :
    d.isNegative? = some false := by
  have hreads := reads_readAmount raw
  rw [h] at hreads
  cases hreads with
  | accepted reads number nonnegative => exact nonnegative

/-! ## Attempts -/

namespace Attempt

theorem givesVerdict_checkPresence (a : Attempt) : Outcome.GivesVerdict a.checkPresence := by
  unfold checkPresence
  repeat' split
  all_goals first
    | exact Outcome.givesVerdict_ok _
    | exact Outcome.givesVerdict_invalid _ _

theorem givesVerdict_checkCurrency (currency : Option String) :
    Outcome.GivesVerdict (checkCurrency currency) := by
  unfold checkCurrency
  repeat' split
  all_goals first
    | exact Outcome.givesVerdict_ok _
    | exact Outcome.givesVerdict_invalid _ _

theorem givesVerdict_checkAmount {amount : Option Decimal}
    (h : ∀ d, amount = some d → d.isNumber = true) : Outcome.GivesVerdict (checkAmount amount) := by
  cases amount with
  | none => exact Outcome.givesVerdict_ok _
  | some d =>
    rcases d.isNegative?_cases with ⟨hnan, -⟩ | ⟨-, hsign | hsign⟩
    · rw [h d rfl] at hnan
      cases hnan
    · simp only [checkAmount, hsign]
      exact Outcome.givesVerdict_invalid _ _
    · simp only [checkAmount, hsign]
      exact Outcome.givesVerdict_ok _

/-- Whether an attempt says whose it is. -/
structure Identified (a : Attempt) : Prop where
  /-- The account is named. -/
  account : a.accountId ≠ ""
  /-- The payment is named. -/
  payment : a.paymentId ≠ ""
  /-- The transaction is named. -/
  transaction : a.transactionId ≠ ""

/-- Of an identified attempt, presence, amount and currency are checked. -/
theorem check_eq {a : Attempt} (h : a.Identified) :
    a.check = a.checkPresence >>= fun _ => checkAmount a.amount >>= fun _ =>
      checkCurrency a.currency := by
  unfold check checkId
  rw [if_neg h.account, if_neg h.payment, if_neg h.transaction]
  rfl

/-- The check of an attempt gives a verdict unless the amount is a NaN and is looked at. -/
theorem givesVerdict_check_iff {a : Attempt} (h : a.Identified) : Outcome.GivesVerdict a.check ↔
    (a.checkPresence = .ok () → ∀ d, a.amount = some d → d.isNumber = true) := by
  constructor
  · intro hverdict present d hd
    rw [check_eq h, present] at hverdict
    rcases d.isNegative?_cases with ⟨-, hsign⟩ | ⟨hnumber, -⟩
    · have hnan : checkAmount a.amount = .error (.arithmetic .invalidOperation) := by
        simp only [hd, checkAmount, hsign]
      rw [hnan] at hverdict
      exact absurd hverdict (Outcome.not_givesVerdict_arithmetic _)
    · exact hnumber
  · intro number
    rw [check_eq h]
    exact (givesVerdict_checkPresence a).bind fun _ present =>
      (givesVerdict_checkAmount (number present)).bind fun _ _ => givesVerdict_checkCurrency _

/-- The parts of an attempt that passes its check have passed theirs. -/
theorem parts_of_check {a : Attempt} (h : a.check = .ok ()) :
    checkAmount a.amount = .ok () ∧ checkCurrency a.currency = .ok () := by
  obtain ⟨-, -, h⟩ := Outcome.exists_of_bind_ok h
  obtain ⟨-, -, h⟩ := Outcome.exists_of_bind_ok h
  obtain ⟨-, -, h⟩ := Outcome.exists_of_bind_ok h
  obtain ⟨-, -, h⟩ := Outcome.exists_of_bind_ok h
  obtain ⟨⟨⟩, hamount, hcurrency⟩ := Outcome.exists_of_bind_ok h
  exact ⟨hamount, hcurrency⟩

/-- The amount of an attempt that passes its check is not negative. -/
theorem isNegative?_of_check {a : Attempt} (h : a.check = .ok ()) {d : Decimal}
    (hd : a.amount = some d) : d.isNegative? = some false := by
  have hamount := (parts_of_check h).1
  rw [hd] at hamount
  rcases d.isNegative?_cases with ⟨-, hsign⟩ | ⟨-, hsign | hsign⟩
  · simp only [checkAmount, hsign] at hamount
    cases hamount
  · simp only [checkAmount, hsign] at hamount
    cases hamount
  · exact hsign

end Attempt

/-! ## Payment data -/

namespace PaymentData

/-- An amount passes on its way to the gateway if it is finite. -/
theorem option_checkAmount_eq_ok_iff {amount told : Option Decimal} :
    Checked.option checkAmount amount = .ok told ↔
      amount.all Decimal.isFinite = true ∧ told = amount := by
  cases amount with
  | none => simp [Checked.option, eq_comm]
  | some d =>
    simp only [Checked.option, Checked.map_eq_ok_iff, checkAmount, Option.all_some]
    by_cases h : d.isFinite = true
    · simp [h, eq_comm]
    · simp [h, Checked.fail]

/-- So does a currency if it is three letters in upper case, in which it is told. -/
theorem option_checkCurrency_eq_ok_iff {currency told : Option String} :
    Checked.option checkCurrency currency = .ok told ↔
      currency.all (fun c => isCurrencyCode (Text.toUpper c)) = true ∧
        told = currency.map Text.toUpper := by
  cases currency with
  | none => simp [Checked.option, eq_comm]
  | some c =>
    simp only [Checked.option, Checked.map_eq_ok_iff, checkCurrency, Option.all_some,
      Option.map_some]
    by_cases h : isCurrencyCode (Text.toUpper c) = true
    · simp [h, eq_comm]
    · simp [h, Checked.fail]

/-- Payment data can be made of a finite amount and a currency of three letters, and holds them. -/
theorem make_eq_ok_iff {amount : Option Decimal} {currency : Option String} {externalKey : String}
    {info : PaymentInfo} {payment : PaymentData} :
    make amount currency externalKey info = .ok payment ↔
      amount.all Decimal.isFinite = true ∧
        currency.all (fun c => isCurrencyCode (Text.toUpper c)) = true ∧
        payment = ⟨amount, currency.map Text.toUpper, externalKey, info⟩ := by
  have houtcome : ∀ x : Checked PaymentData, x.outcome = .ok payment ↔ x = .ok payment := by
    intro x
    cases x <;> simp [Checked.outcome]
  unfold make ofParts
  rw [houtcome]
  simp only [Checked.seq_eq_ok_iff, Checked.fmap_eq_ok_iff, Checked.under_eq_ok_iff,
    option_checkAmount_eq_ok_iff, option_checkCurrency_eq_ok_iff]
  constructor
  · rintro ⟨_, _, ⟨_, _, ⟨_, _, ⟨_, ⟨hamount, rfl⟩, rfl⟩, ⟨hcurrency, rfl⟩, rfl⟩, hkey, rfl⟩, hinfo,
      rfl⟩
    cases hkey
    cases hinfo
    exact ⟨hamount, hcurrency, rfl⟩
  · rintro ⟨hamount, hcurrency, rfl⟩
    exact ⟨_, _, ⟨_, _, ⟨_, _, ⟨_, ⟨hamount, rfl⟩, rfl⟩, ⟨hcurrency, rfl⟩, rfl⟩, rfl, rfl⟩, rfl,
      rfl⟩

/-- Whether the gateway can be told an amount and a currency, whatever else it is told. -/
def Makes (amount : Option Decimal) (currency : Option String) : Prop :=
  ∀ externalKey info, ∃ payment, make amount currency externalKey info = .ok payment

/-- Amounts and currencies that suit the gateway once they have been accepted. -/
structure Suitable (amount : Option Decimal) (currency : Option String) : Prop where
  /-- The amount is neither an infinity nor a NaN. -/
  finite : ∀ d, amount = some d → d.isFinite = true
  /-- The currency is not empty. -/
  named : currency ≠ some ""
  /-- No letter of the currency becomes several in upper case. -/
  single : ∀ c, currency = some c → Text.StaysSingle c

/-- Three letters are three letters in upper case exactly if none of them becomes several. -/
theorem isCurrencyCode_toUpper_iff {c : String} (h : isCurrencyCode c = true) :
    isCurrencyCode (Text.toUpper c) = true ↔ Text.StaysSingle c := by
  unfold isCurrencyCode at h ⊢
  rw [Bool.and_eq_true, beq_iff_eq] at h ⊢
  obtain ⟨hlength, hletters⟩ := h
  rw [← hlength, Text.length_toUpper_eq_iff]
  exact ⟨And.left, fun hsingle => ⟨hsingle, Text.isAlphabetic_toUpper hletters hsingle⟩⟩

/-- With a currency that attempts may have, payment data can be made of what is suitable. -/
theorem makes_iff_suitable {currency : Option String} (h : Attempt.checkCurrency currency = .ok ())
    (amount : Option Decimal) : Makes amount currency ↔ Suitable amount currency := by
  have hmakes : Makes amount currency ↔ amount.all Decimal.isFinite = true ∧
      currency.all (fun c => isCurrencyCode (Text.toUpper c)) = true := by
    simp only [Makes, make_eq_ok_iff, exists_and_left, exists_eq, and_true]
    exact ⟨fun hall => hall "" {}, fun hboth _ _ => hboth⟩
  have hamount : amount.all Decimal.isFinite = true ↔ ∀ d, amount = some d → d.isFinite = true := by
    cases amount <;> simp
  have hcurrency : currency.all (fun c => isCurrencyCode (Text.toUpper c)) = true ↔
      currency ≠ some "" ∧ ∀ c, currency = some c → Text.StaysSingle c := by
    cases currency with
    | none => simp
    | some c =>
      by_cases hempty : c = ""
      · subst hempty
        simp only [Option.all_some, ne_eq, not_true_eq_false, false_and, iff_false]
        decide
      · have hcode : isCurrencyCode c = true := by
          by_contra hcode
          simp [Attempt.checkCurrency, hempty, hcode] at h
        simp [hempty, isCurrencyCode_toUpper_iff hcode]
  rw [hmakes, hamount, hcurrency]
  constructor
  · rintro ⟨finite, named, single⟩
    exact ⟨finite, named, single⟩
  · rintro ⟨finite, named, single⟩
    exact ⟨finite, named, single⟩

/-- Amounts and currencies are accepted or refused, unless the amount is a NaN. No accepted amount
is negative, and the gateway can be told what has been accepted exactly if it is suitable: the
amount is finite, and the currency is not empty and stays as long in upper case. -/
theorem accepted_is_suitable (raw : Option String) {a : Attempt} (identified : a.Identified) :
    (Outcome.GivesVerdict (readAmount raw) ↔
      ∀ d, raw.bind Decimal.ofText? = some d → d.isNumber = true) ∧
    (Outcome.GivesVerdict a.check ↔
      (a.checkPresence = .ok () → ∀ d, a.amount = some d → d.isNumber = true)) ∧
    (∀ d, readAmount raw = .ok d → d.isNegative? = some false) ∧
    (a.check = .ok () → (∀ d, a.amount = some d → d.isNegative? = some false) ∧
      (Makes a.amount a.currency ↔ Suitable a.amount a.currency) ∧
      ∀ d, readAmount raw = .ok d →
        (Makes (some d) a.currency ↔ Suitable (some d) a.currency)) := by
  refine ⟨givesVerdict_readAmount_iff raw, Attempt.givesVerdict_check_iff identified,
    fun d => isNegative?_of_readAmount, fun passes => ?_⟩
  have hcurrency := (Attempt.parts_of_check passes).2
  exact ⟨fun d => Attempt.isNegative?_of_check passes, makes_iff_suitable hcurrency _,
    fun d _ => makes_iff_suitable hcurrency _⟩

/-- Ten units of a currency in small letters are accepted and told. -/
theorem accepted_is_suitable_small_letters :
    let a : Attempt :=
      ⟨"acc", "pay", "tx", none, .credit, some (.finite false 1000 (-2)), some "eur", []⟩
    a.Identified ∧ a.check = .ok () ∧ readAmount (some " 1_0.00 ") = .ok (.finite false 1000 (-2)) ∧
      Makes a.amount a.currency := by
  intro a
  have identified : a.Identified := ⟨by decide, by decide, by decide⟩
  have passes : a.check = .ok () := rfl
  have reads : readAmount (some " 1_0.00 ") = .ok (.finite false 1000 (-2)) := by rfl
  have suitable : Suitable a.amount a.currency := by
    refine ⟨?_, by decide, ?_⟩
    · rintro d hd
      obtain rfl := Option.some.inj hd
      rfl
    · rintro c hc
      obtain rfl := Option.some.inj hc
      decide
  obtain ⟨-, -, -, accepted⟩ := accepted_is_suitable (some " 1_0.00 ") identified
  exact ⟨identified, passes, reads, (accepted passes).2.1.2 suitable⟩

/-- A NaN is neither accepted nor refused, and the gateway can be told neither an infinity, nor a
currency of which a letter becomes two, nor the empty currency of a release, though all of these
are accepted. -/
theorem checks_are_incomplete :
    let a : Attempt :=
      ⟨"acc", "pay", "tx", none, .authorize, some (.finite false 1000 (-2)), some "EUR", []⟩
    let infinite : Attempt := { a with amount := some (.infinite false) }
    let doubling : Attempt := { a with currency := some "ŉab" }
    let release : Attempt := { a with kind := .void, amount := none, currency := some "" }
    ¬ Outcome.GivesVerdict (readAmount (some "NaN")) ∧
    ¬ Outcome.GivesVerdict { a with amount := some (.nan false false 0) }.check ∧
    readAmount (some "Infinity") = .ok (.infinite false) ∧
    ∀ accepted ∈ [infinite, doubling, release],
      accepted.check = .ok () ∧ ¬ Makes accepted.amount accepted.currency := by
  intro a infinite doubling release
  have hread : readAmount (some "NaN") = .error (.arithmetic .invalidOperation) := rfl
  have hcheck : { a with amount := some (.nan false false 0) }.check =
      .error (.arithmetic .invalidOperation) := rfl
  rw [hread, hcheck]
  refine ⟨Outcome.not_givesVerdict_arithmetic _, Outcome.not_givesVerdict_arithmetic _, rfl, ?_⟩
  have hrefused : ∀ accepted ∈ [infinite, doubling, release], accepted.check.isOk = true ∧
      (make accepted.amount accepted.currency "" {}).isOk = false := by
    decide +kernel
  intro accepted hmem
  obtain ⟨hpasses, hmake⟩ := hrefused accepted hmem
  obtain ⟨⟨⟩, hcheck⟩ := Outcome.exists_of_isOk hpasses
  refine ⟨hcheck, fun makes => ?_⟩
  obtain ⟨payment, hpayment⟩ := makes "" {}
  rw [hpayment] at hmake
  cases hmake

end PaymentData

end CardPayments
