import CardPayments.Proofs.Engine.Blame

/-!
# Two runs side by side

Whether something makes a difference to a step is told by taking the step twice, from worlds that
differ in nothing else. The two runs go on in step: they end in the same fault, or in values that
belong together, from which the next step is taken. Between two worlds the stores and the calls are
pinned down, and of the collaborators only a relation is known that their answers respect.
-/

namespace CardPayments

variable {σ α β γ δ : Type}

/-- Whether a collaborator gives the same answer in related states, and leaves related ones. -/
def SameAnswers (R : σ → σ → Prop) (f : σ → Outcome α × σ) : Prop :=
  ∀ s t, R s t → (f s).1 = (f t).1 ∧ R (f s).2 (f t).2

/-- Collaborators that give a transaction the same answers in related states. -/
structure Collaborators.Respects (c : Collaborators σ) (R : σ → σ → Prop) : Prop where
  /-- The clock. -/
  clock : SameAnswers R c.clock
  /-- The accounts of the billing platform. -/
  account : ∀ id, SameAnswers R (c.account id)
  /-- The keys of the billing platform. -/
  externalKey : ∀ payment transaction, SameAnswers R (c.externalKey payment transaction)
  /-- The gateway. -/
  gateway : ∀ call, SameAnswers R (c.gateway call)
  /-- Opening a unit of work. -/
  opening : ∀ access, SameAnswers R (c.opening access)
  /-- Committing a unit of work. -/
  committing : SameAnswers R c.committing

/-- Collaborators whose answers depend on what they are asked alone. -/
abbrev Collaborators.Stateless (c : Collaborators σ) : Prop := c.Respects fun _ _ => True

/-- The steady collaborators give every answer anew. -/
theorem Collaborators.stateless_steady (now : Moment) (answer : Outcome GatewayResponse) :
    (steady now answer).Stateless := by
  constructor
  all_goals
    intros
    exact fun _ _ _ => ⟨rfl, trivial⟩

/-- A collaborator does in one state what it does in it. -/
theorem SameAnswers.of_eq (f : σ → Outcome α × σ) : SameAnswers Eq f := by
  rintro s _ rfl
  exact ⟨rfl, rfl⟩

/-- All collaborators give the same answers in the same state. -/
theorem Collaborators.respects_eq (c : Collaborators σ) : c.Respects Eq :=
  ⟨.of_eq _, fun _ => .of_eq _, fun _ _ => .of_eq _, fun _ => .of_eq _, fun _ => .of_eq _, .of_eq _⟩

/-- Two worlds with these stores and these calls, whose collaborators are related. -/
structure World.Abreast (R : σ → σ → Prop) (s t : Store) (k l : List GatewayCall)
    (w v : World σ) : Prop where
  /-- The store of the first. -/
  left : w.store = s
  /-- The store of the second. -/
  right : v.store = t
  /-- The calls in the first. -/
  calls_left : w.calls = k
  /-- The calls in the second. -/
  calls_right : v.calls = l
  /-- The collaborators. -/
  outside : R w.outside v.outside

namespace Engine

/-- How two runs end that go on in step. -/
inductive Ended (V : α → β → World σ → World σ → Prop) (E : World σ → World σ → Prop) :
    Outcome α × World σ → Outcome β × World σ → Prop
  /-- In values that belong together. -/
  | ok {a b w v} (together : V a b w v) : Ended V E (.ok a, w) (.ok b, v)
  /-- In the same fault. -/
  | error {e w v} (stopped : E w v) : Ended V E (.error e, w) (.error e, v)

/-- Where only equal values belong together, two runs that go on in step have the same outcome. -/
theorem Ended.same {V : α → α → World σ → World σ → Prop} {E P : World σ → World σ → Prop}
    {p p' : Outcome α × World σ} (h : Ended V E p p')
    (hV : ∀ a b w v, V a b w v → a = b ∧ P w v) (hE : ∀ w v, E w v → P w v) :
    p.1 = p'.1 ∧ P p.2 p'.2 := by
  cases h with
  | ok together =>
    obtain ⟨hvalue, hworlds⟩ := hV _ _ _ _ together
    exact ⟨congrArg Except.ok hvalue, hworlds⟩
  | error stopped => exact ⟨rfl, hE _ _ stopped⟩

/-- Whether two steps that are taken from related worlds go on in step. -/
def InStep (Q : World σ → World σ → Prop) (x : Engine σ α) (y : Engine σ β)
    (V : α → β → World σ → World σ → Prop) (E : World σ → World σ → Prop) : Prop :=
  ∀ w v, Q w v → Ended V E (x w) (y v)

namespace InStep

variable {Q : World σ → World σ → Prop} {E : World σ → World σ → Prop}

/-- Values that belong together lead on in step. -/
theorem bind {V : α → β → World σ → World σ → Prop} {V' : γ → δ → World σ → World σ → Prop}
    {x : Engine σ α} {y : Engine σ β} {f : α → Engine σ γ} {g : β → Engine σ δ}
    (hxy : InStep Q x y V E) (hfg : ∀ a b, InStep (V a b) (f a) (g b) V' E) :
    InStep Q (x >>= f) (y >>= g) V' E := by
  intro w v hwv
  have h := hxy w v hwv
  rcases hx : x w with ⟨r, w₁⟩
  rcases hy : y v with ⟨r', v₁⟩
  rw [hx, hy] at h
  cases h with
  | ok together =>
    rw [bind_ok f hx, bind_ok g hy]
    exact hfg _ _ w₁ v₁ together
  | error stopped =>
    rw [bind_error f hx, bind_error g hy]
    exact .error stopped

/-- So do equal values. -/
theorem bind_eq {Q' : World σ → World σ → Prop} {V : γ → δ → World σ → World σ → Prop}
    {x y : Engine σ α} {f : α → Engine σ γ} {g : α → Engine σ δ}
    (hxy : InStep Q x y (fun a b w v => a = b ∧ Q' w v) E)
    (hfg : ∀ a, InStep Q' (f a) (g a) V E) : InStep Q (x >>= f) (y >>= g) V E := by
  refine hxy.bind fun a b w v => ?_
  rintro ⟨rfl, h⟩
  exact hfg a w v h

/-- Less may be said of values that belong together. -/
theorem mono {V V' : α → β → World σ → World σ → Prop} {x : Engine σ α} {y : Engine σ β}
    (h : InStep Q x y V E) (hV : ∀ a b w v, V a b w v → V' a b w v) : InStep Q x y V' E := by
  intro w v hwv
  have hends := h w v hwv
  rcases hx : x w with ⟨r, w₁⟩
  rcases hy : y v with ⟨r', v₁⟩
  rw [hx, hy] at hends
  cases hends with
  | ok together => exact .ok (hV _ _ _ _ together)
  | error stopped => exact .error stopped

/-- Two runs go on in step in other words for their faults. -/
theorem rephrase {V : α → β → World σ → World σ → Prop} {x : Engine σ α} {y : Engine σ β}
    (h : InStep Q x y V E) (f : Fault → Fault) :
    InStep Q (rephrase f x) (rephrase f y) V E := by
  intro w v hwv
  have hends := h w v hwv
  rcases hx : x w with ⟨r, w₁⟩
  rcases hy : y v with ⟨r', v₁⟩
  rw [hx, hy] at hends
  cases hends with
  | ok together =>
    rw [rephrase_ok f hx, rephrase_ok f hy]
    exact .ok together
  | error stopped =>
    rw [rephrase_error f hx, rephrase_error f hy]
    exact .error stopped

/-- A value that is there belongs to another one. -/
theorem pure {V : α → β → World σ → World σ → Prop} {a : α} {b : β}
    (h : ∀ w v, Q w v → V a b w v) : InStep Q (pure a) (pure b) V E :=
  fun w v hwv => .ok (h w v hwv)

/-- A fault is the same fault. -/
theorem throw {V : α → β → World σ → World σ → Prop} {e : Fault} (h : ∀ w v, Q w v → E w v) :
    InStep Q (throw e) (throw e) V E := fun w v hwv => .error (h w v hwv)

end InStep

/-! ## Steps from pinned worlds -/

section Abreast

variable {R : σ → σ → Prop} {s t : Store} {k l : List GatewayCall} {E : World σ → World σ → Prop}

/-- What does not touch the world ends in the same way. -/
theorem inStep_ofOutcome {Q : World σ → World σ → Prop} (stop : ∀ w v, Q w v → E w v)
    (x : Outcome α) :
    InStep Q (ofOutcome x) (ofOutcome x) (fun a b w v => a = b ∧ Q w v) E := by
  intro w v hwv
  cases x with
  | ok a => exact .ok ⟨rfl, hwv⟩
  | error e => exact .error (stop w v hwv)

/-- Each run sees its own store. -/
theorem inStep_look (query : Store → α) (query' : Store → β) :
    InStep (World.Abreast R s t k l) (look query) (look query')
      (fun a b w v => (a = query s ∧ b = query' t) ∧ World.Abreast R s t k l w v) E :=
  fun _ _ hwv => .ok ⟨⟨congrArg query hwv.left, congrArg query' hwv.right⟩, hwv⟩

/-- A collaborator gives both runs the same answer, be it a fault. -/
theorem inStep_ask {f : σ → Outcome α × σ} (hf : SameAnswers R f) :
    InStep (World.Abreast R s t k l) (ask f) (ask f)
      (fun a b w v => a = b ∧ World.Abreast R s t k l w v) E := by
  intro w v hwv
  obtain ⟨hanswer, houtside⟩ := hf _ _ hwv.outside
  exact .ok ⟨hanswer, hwv.left, hwv.right, hwv.calls_left, hwv.calls_right, houtside⟩

/-- A call that is noted in both runs may be noted with any answer. -/
theorem inStep_noteExchange (e : Exchange GatewayCall GatewayResponse) :
    InStep (World.Abreast R s t k l) (noteExchange e) (noteExchange e)
      (fun a b w v =>
        a = b ∧ World.Abreast R s t (k ++ [e.request]) (l ++ [e.request]) w v) E := by
  intro w v hwv
  refine .ok ⟨rfl, hwv.left, hwv.right, ?_, ?_, hwv.outside⟩
  · rw [← hwv.calls_left]
    exact List.map_append
  · rw [← hwv.calls_right]
    exact List.map_append

variable (stop : ∀ w v, World.Abreast R s t k l w v → E w v)
include stop

/-- A collaborator gives both runs the same answer. -/
theorem inStep_consult {f : σ → Outcome α × σ} (hf : SameAnswers R f) :
    InStep (World.Abreast R s t k l) (consult f) (consult f)
      (fun a b w v => a = b ∧ World.Abreast R s t k l w v) E := by
  intro w v hwv
  obtain ⟨hanswer, houtside⟩ := hf _ _ hwv.outside
  have after : World.Abreast R s t k l (consult f w).2 (consult f v).2 :=
    ⟨hwv.left, hwv.right, hwv.calls_left, hwv.calls_right, houtside⟩
  have hleft : consult f w = ((f v.outside).1, (consult f w).2) := Prod.ext hanswer rfl
  have hright : consult f v = ((f v.outside).1, (consult f v).2) := rfl
  rw [hleft, hright]
  cases (f v.outside).1 with
  | ok a => exact .ok ⟨rfl, after⟩
  | error e => exact .error (stop _ _ after)

variable {c : Collaborators σ} (hc : c.Respects R)
include hc

/-- Each run finds what its store says. -/
theorem inStep_readStore (query : Store → α) (query' : Store → β) :
    InStep (World.Abreast R s t k l) (readStore c query) (readStore c query')
      (fun a b w v => (a = query s ∧ b = query' t) ∧ World.Abreast R s t k l w v) E :=
  (inStep_consult stop (hc.opening .reading)).bind_eq fun _ => inStep_look query query'

theorem inStep_read (operation : String) (query : Store → α) (query' : Store → β) :
    InStep (World.Abreast R s t k l) (read c operation query) (read c operation query')
      (fun a b w v => (a = query s ∧ b = query' t) ∧ World.Abreast R s t k l w v) E :=
  (inStep_readStore stop hc query query').rephrase _

/-- Both runs make their change, or neither does. -/
theorem inStep_writeStore {change : Store → Outcome (α × Store)}
    {change' : Store → Outcome (β × Store)} {a : α} {b : β} {s' t' : Store}
    (hleft : change s = .ok (a, s')) (hright : change' t = .ok (b, t')) :
    InStep (World.Abreast R s t k l) (writeStore c change) (writeStore c change')
      (fun a' b' w v => (a' = a ∧ b' = b) ∧ World.Abreast R s' t' k l w v) E := by
  refine (inStep_consult stop (hc.opening .writing)).bind_eq fun _ => ?_
  refine (inStep_look change change').bind fun x y w v => ?_
  rintro ⟨⟨rfl, rfl⟩, hwv⟩
  rw [hleft, hright]
  refine InStep.bind_eq (inStep_consult stop hc.committing) (fun _ w₁ v₁ h₁ => ?_) w v hwv
  exact .ok ⟨⟨rfl, rfl⟩, rfl, rfl, h₁.calls_left, h₁.calls_right, h₁.outside⟩

/-- A change that fails in the same way in both runs is made in neither. -/
theorem inStep_writeStore_of_error {change : Store → Outcome (α × Store)}
    {change' : Store → Outcome (β × Store)} {V : α → β → World σ → World σ → Prop} {e : Fault}
    (hleft : change s = .error e) (hright : change' t = .error e) :
    InStep (World.Abreast R s t k l) (writeStore c change) (writeStore c change') V E := by
  refine (inStep_consult stop (hc.opening .writing)).bind_eq fun _ => ?_
  refine (inStep_look change change').bind fun x y w v => ?_
  rintro ⟨⟨rfl, rfl⟩, hwv⟩
  rw [hleft, hright]
  exact .error (stop w v hwv)

/-- Both runs add a record, or none can be made in either. -/
theorem inStep_addResponse {x y : Outcome ResponseRecord} (hxy : ∀ e, x = .error e → y = .error e)
    (hyx : ∀ e, y = .error e → x = .error e) :
    InStep (World.Abreast R s t k l)
      (writeStore c fun s => do let record ← x; pure (s.addResponse record))
      (writeStore c fun s => do let record ← y; pure (s.addResponse record))
      (fun row row' w v => ∃ record record', x = .ok record ∧ y = .ok record' ∧
        row.record = record.kept ∧ row'.record = record'.kept ∧
        World.Abreast R (s.addResponse record).2 (t.addResponse record').2 k l w v) E := by
  cases x with
  | error e =>
    obtain rfl := hxy e rfl
    exact inStep_writeStore_of_error stop hc rfl rfl
  | ok record =>
    cases y with
    | error e => cases hyx e rfl
    | ok record' =>
      refine (inStep_writeStore stop hc rfl rfl).mono fun row row' w v => ?_
      rintro ⟨⟨rfl, rfl⟩, hwv⟩
      exact ⟨record, record', rfl, rfl, rfl, rfl, hwv⟩

omit stop in
/-- A call is noted in both runs, and both get the same answer. -/
theorem inStep_callGateway {call : GatewayCall}
    (stop : ∀ w v, World.Abreast R s t (k ++ [call]) (l ++ [call]) w v → E w v) :
    InStep (World.Abreast R s t k l) (callGateway c call) (callGateway c call)
      (fun a b w v => a = b ∧ World.Abreast R s t (k ++ [call]) (l ++ [call]) w v) E :=
  (inStep_ask (hc.gateway call)).bind_eq fun answer =>
    (inStep_noteExchange ⟨call, answer⟩).bind_eq fun _ =>
      (inStep_ofOutcome stop answer).rephrase _

end Abreast

end Engine

end CardPayments
