import CardPayments.Engine.World

/-!
# Laws of steps

A step that begins with another one either ends in the fault of the first or goes on from the world
that the first one left. So whatever every primitive step keeps, all that is made of them keeps, and
a fault is always the fault of some primitive step.
-/

namespace CardPayments

/-- Nothing but the collaborators has moved on. -/
structure World.Idle {σ : Type} (w w' : World σ) : Prop where
  /-- The same store. -/
  store : w'.store = w.store
  /-- The same calls and answers. -/
  exchanges : w'.exchanges = w.exchanges
  /-- The same pending payments. -/
  openings : w'.openings = w.openings

namespace World.Idle

variable {σ : Type} {u v w : World σ}

theorem refl (w : World σ) : Idle w w := ⟨rfl, rfl, rfl⟩

theorem trans (h : Idle u v) (h' : Idle v w) : Idle u w :=
  ⟨h'.store.trans h.store, h'.exchanges.trans h.exchanges, h'.openings.trans h.openings⟩

theorem calls (h : Idle v w) : w.calls = v.calls := congrArg (List.map _) h.exchanges

end World.Idle

/-- The world after some calls, each with its answer, and with another store. -/
structure World.Becomes {σ : Type} (w : World σ) (store : Store)
    (made : List (Exchange GatewayCall GatewayResponse)) (w' : World σ) : Prop where
  /-- The store. -/
  store : w'.store = store
  /-- The calls so far and the new ones, with their answers. -/
  exchanges : w'.exchanges = w.exchanges ++ made
  /-- The same pending payments. -/
  openings : w'.openings = w.openings

namespace World

variable {σ : Type} {made more : List (Exchange GatewayCall GatewayResponse)}

theorem Becomes.calls {w w' : World σ} {store : Store} (h : w.Becomes store made w') :
    w'.calls = w.calls ++ made.map Exchange.request := by
  rw [World.calls, h.exchanges, List.map_append]
  rfl

/-- Where no call has been made, the calls are the same. -/
theorem Becomes.calls_eq {w w' : World σ} {store : Store} (h : w.Becomes store [] w') :
    w'.calls = w.calls := h.calls.trans (List.append_nil _)

theorem Idle.becomes {w w' : World σ} (h : w.Idle w') : w.Becomes w.store [] w' :=
  ⟨h.store, h.exchanges.trans (List.append_nil _).symm, h.openings⟩

/-- Without a call, only the store and the collaborators may have moved on. -/
theorem Becomes.idle {w w' : World σ} (h : w.Becomes w.store [] w') : w.Idle w' :=
  ⟨h.store, h.exchanges.trans (List.append_nil _), h.openings⟩

/-- What the collaborators did before does not count. -/
theorem Idle.trans_becomes {u v w : World σ} {store : Store} (h : u.Idle v)
    (h' : v.Becomes store made w) : u.Becomes store made w :=
  ⟨h'.store, by rw [h'.exchanges, h.exchanges], h'.openings.trans h.openings⟩

/-- What the collaborators did afterwards does not count. -/
theorem Becomes.trans_idle {u v w : World σ} {store : Store} (h : u.Becomes store made v)
    (h' : v.Idle w) : u.Becomes store made w :=
  ⟨h'.store.trans h.store, h'.exchanges.trans h.exchanges, h'.openings.trans h.openings⟩

/-- The calls of one step go before those of the next. -/
theorem Becomes.trans {u v w : World σ} {s t : Store} (h : u.Becomes s made v)
    (h' : v.Becomes t more w) : u.Becomes t (made ++ more) w :=
  ⟨h'.store, by rw [h'.exchanges, h.exchanges, List.append_assoc], h'.openings.trans h.openings⟩

end World

namespace Engine

variable {σ α β : Type}

/-- A step goes on from where the first half has led. -/
theorem bind_ok {x : Engine σ α} (f : α → Engine σ β) {w w₁ : World σ} {a : α}
    (h : x w = (.ok a, w₁)) : (x >>= f) w = f a w₁ := by
  change (match x w with | (r, w₁) => ExceptT.bindCont f r w₁) = _
  rw [h]
  rfl

/-- A step ends where its first half has failed. -/
theorem bind_error {x : Engine σ α} (f : α → Engine σ β) {w w₁ : World σ} {e : Fault}
    (h : x w = (.error e, w₁)) : (x >>= f) w = (.error e, w₁) := by
  change (match x w with | (r, w₁) => ExceptT.bindCont f r w₁) = _
  rw [h]
  rfl

/-- One step after another ends in the fault of the first, or as the second ends. -/
theorem bind_cases {x : Engine σ α} {f : α → Engine σ β} {w w' : World σ} {r : Outcome β}
    (h : (x >>= f) w = (r, w')) :
    (∃ e, x w = (.error e, w') ∧ r = .error e) ∨
      ∃ a w₁, x w = (.ok a, w₁) ∧ f a w₁ = (r, w') := by
  rcases hx : x w with ⟨e | a, w₁⟩
  · rw [bind_error f hx] at h
    obtain ⟨rfl, rfl⟩ := Prod.mk.inj h
    exact Or.inl ⟨e, rfl, rfl⟩
  · rw [bind_ok f hx] at h
    exact Or.inr ⟨a, w₁, rfl, h⟩

/-- One step after another has a result only if both have. -/
theorem exists_of_bind_ok {x : Engine σ α} {f : α → Engine σ β} {w w' : World σ} {b : β}
    (h : (x >>= f) w = (.ok b, w')) : ∃ a w₁, x w = (.ok a, w₁) ∧ f a w₁ = (.ok b, w') := by
  rcases bind_cases h with ⟨_, _, he⟩ | hx
  · cases he
  · exact hx

/-- Other words for its faults do not change what a step gives. -/
theorem rephrase_ok (f : Fault → Fault) {x : Engine σ α} {w w₁ : World σ} {a : α}
    (h : x w = (.ok a, w₁)) : rephrase f x w = (.ok a, w₁) := by
  simp only [rephrase, ExceptT.mk, h]

/-- A fault is put into the other words where it arises. -/
theorem rephrase_error (f : Fault → Fault) {x : Engine σ α} {w w₁ : World σ} {e : Fault}
    (h : x w = (.error e, w₁)) : rephrase f x w = (.error (f e), w₁) := by
  simp only [rephrase, ExceptT.mk, h]

/-- A step in other words ends as the step, but for the words of its fault. -/
theorem rephrase_cases {f : Fault → Fault} {x : Engine σ α} {w w' : World σ} {r : Outcome α}
    (h : rephrase f x w = (r, w')) :
    (∃ e, x w = (.error e, w') ∧ r = .error (f e)) ∨ ∃ a, x w = (.ok a, w') ∧ r = .ok a := by
  rcases hx : x w with ⟨e | a, w₁⟩
  · rw [rephrase_error f hx] at h
    obtain ⟨rfl, rfl⟩ := Prod.mk.inj h
    exact Or.inl ⟨e, rfl, rfl⟩
  · rw [rephrase_ok f hx] at h
    obtain ⟨rfl, rfl⟩ := Prod.mk.inj h
    exact Or.inr ⟨a, rfl, rfl⟩

/-! ## Reading and writing -/

/-- A collaborator that is consulted changes nothing but its own state. -/
theorem consult_eq {f : σ → Outcome α × σ} {w w' : World σ} {r : Outcome α}
    (h : consult f w = (r, w')) : (f w.outside).1 = r ∧ w.Idle w' := by
  obtain ⟨rfl, rfl⟩ := Prod.mk.inj h
  exact ⟨rfl, rfl, rfl, rfl⟩

theorem ask_eq {f : σ → α × σ} {w w' : World σ} {r : Outcome α} (h : ask f w = (r, w')) :
    r = .ok (f w.outside).1 ∧ w.Idle w' := by
  obtain ⟨rfl, rfl⟩ := Prod.mk.inj h
  exact ⟨rfl, rfl, rfl, rfl⟩

theorem ofOutcome_eq {x r : Outcome α} {w w' : World σ}
    (h : (ofOutcome x : Engine σ α) w = (r, w')) : x = r ∧ w = w' := Prod.mk.inj h

/-- What is read is drawn from the store as it is. -/
theorem readStore_ok {c : Collaborators σ} {query : Store → α} {w w' : World σ} {a : α}
    (h : readStore c query w = (.ok a, w')) : query w.store = a := by
  obtain ⟨_, w₁, hx, hl⟩ := exists_of_bind_ok h
  obtain ⟨ha, -⟩ := Prod.mk.inj hl
  rw [← (consult_eq hx).2.store]
  exact Except.ok.inj ha

theorem read_ok {c : Collaborators σ} {operation : String} {query : Store → α} {w w' : World σ}
    {a : α} (h : read c operation query w = (.ok a, w')) : query w.store = a := by
  obtain ⟨_, _, hr⟩ | ⟨b, hb, hr⟩ := rephrase_cases h
  · cases hr
  · obtain rfl := Except.ok.inj hr
    exact readStore_ok hb

/-- A change of the store is made as a whole or not at all. -/
theorem writeStore_cases {c : Collaborators σ} {change : Store → Outcome (α × Store)}
    {w w' : World σ} {r : Outcome α} (h : writeStore c change w = (r, w')) :
    (∃ e, r = .error e ∧ w.Idle w') ∨
      ∃ a store, r = .ok a ∧ change w.store = .ok (a, store) ∧ w.Becomes store [] w' := by
  obtain ⟨e, hx, hr⟩ | ⟨_, w₁, hx, h⟩ := bind_cases h
  · exact Or.inl ⟨e, hr, (consult_eq hx).2⟩
  have h₁ := (consult_eq hx).2
  obtain ⟨e, hl, hr⟩ | ⟨change', w₂, hl, h⟩ := bind_cases h
  · cases hl
  obtain ⟨hchange, rfl⟩ := Prod.mk.inj hl
  obtain rfl := Except.ok.inj hchange
  obtain ⟨e, ho, hr⟩ | ⟨⟨a, store⟩, w₃, ho, h⟩ := bind_cases h
  · exact Or.inl ⟨e, hr, (ofOutcome_eq ho).2 ▸ h₁⟩
  obtain ⟨hstore, rfl⟩ := ofOutcome_eq ho
  obtain ⟨e, hc, hr⟩ | ⟨_, w₄, hc, h⟩ := bind_cases h
  · exact Or.inl ⟨e, hr, h₁.trans (consult_eq hc).2⟩
  have h₄ := h₁.trans (consult_eq hc).2
  obtain ⟨rfl, rfl⟩ := Prod.mk.inj h
  rw [h₁.store] at hstore
  exact Or.inr ⟨a, store, rfl, hstore, rfl, h₄.exchanges.trans (List.append_nil _).symm,
    h₄.openings⟩

/-- The same holds in other words for the faults. -/
theorem rephrase_writeStore_cases {f : Fault → Fault} {c : Collaborators σ}
    {change : Store → Outcome (α × Store)} {w w' : World σ} {r : Outcome α}
    (h : rephrase f (writeStore c change) w = (r, w')) :
    (∃ e, r = .error (f e) ∧ w.Idle w') ∨
      ∃ a store, r = .ok a ∧ change w.store = .ok (a, store) ∧ w.Becomes store [] w' := by
  rcases rephrase_cases h with ⟨e, hx, hr⟩ | ⟨a, hx, hr⟩
  · rcases writeStore_cases hx with ⟨e', _, idle⟩ | ⟨_, _, he, _⟩
    · exact Or.inl ⟨e, hr, idle⟩
    · cases he
  · rcases writeStore_cases hx with ⟨_, he, _⟩ | ⟨a', store, ha, hchange, becomes⟩
    · cases he
    · obtain rfl := Except.ok.inj ha
      exact Or.inr ⟨a, store, hr, hchange, becomes⟩

/-! ## What every step keeps -/

/-- Whether a step leads from every world to one that stands in the relation to it. -/
def Keeps (R : World σ → World σ → Prop) (x : Engine σ α) : Prop := ∀ w, R w (x w).2

/-- One step after another keeps what follows from what each of them keeps; the first may be the
last. -/
theorem Keeps.bind_of {Q R T : World σ → World σ → Prop} (stop : ∀ {u v}, Q u v → T u v)
    (next : ∀ {u v w}, Q u v → R v w → T u w) {x : Engine σ α} {f : α → Engine σ β}
    (hx : Keeps Q x) (hf : ∀ a, Keeps R (f a)) : Keeps T (x >>= f) := by
  intro w
  have h := hx w
  rcases hw : x w with ⟨e | a, w₁⟩ <;> rw [hw] at h
  · rw [bind_error f hw]
    exact stop h
  · rw [bind_ok f hw]
    exact next h (hf a w₁)

/-- One step after another keeps what both keep. -/
theorem Keeps.bind {R : World σ → World σ → Prop} (trans : ∀ {u v w}, R u v → R v w → R u w)
    {x : Engine σ α} {f : α → Engine σ β} (hx : Keeps R x) (hf : ∀ a, Keeps R (f a)) :
    Keeps R (x >>= f) := Keeps.bind_of (Q := R) id trans hx hf

/-- What a step keeps does not depend on the words for its faults. -/
theorem Keeps.rephrase {R : World σ → World σ → Prop} {x : Engine σ α} (hx : Keeps R x)
    (f : Fault → Fault) : Keeps R (rephrase f x) := by
  intro w
  have h := hx w
  rcases hw : x w with ⟨e | a, w₁⟩ <;> rw [hw] at h
  · rw [rephrase_error f hw]
    exact h
  · rw [rephrase_ok f hw]
    exact h

/-- Whether a step leaves everything but the collaborators alone. -/
abbrev Quiet (x : Engine σ α) : Prop := Keeps World.Idle x

theorem Quiet.bind {x : Engine σ α} {f : α → Engine σ β} (hx : Quiet x) (hf : ∀ a, Quiet (f a)) :
    Quiet (x >>= f) := Keeps.bind (fun h h' => h.trans h') hx hf

theorem quiet_pure (a : α) : Quiet (pure a : Engine σ α) := World.Idle.refl

theorem quiet_throw (e : Fault) : Quiet (throw e : Engine σ α) := World.Idle.refl

theorem quiet_ofOutcome (x : Outcome α) : Quiet (ofOutcome x : Engine σ α) := World.Idle.refl

theorem quiet_look (query : Store → α) : Quiet (look query : Engine σ α) := World.Idle.refl

theorem quiet_ask (f : σ → α × σ) : Quiet (ask f) := fun _ => ⟨rfl, rfl, rfl⟩

theorem quiet_consult (f : σ → Outcome α × σ) : Quiet (consult f) := fun _ => ⟨rfl, rfl, rfl⟩

theorem quiet_readStore (c : Collaborators σ) (query : Store → α) : Quiet (readStore c query) :=
  (quiet_consult _).bind fun _ => quiet_look query

theorem quiet_read (c : Collaborators σ) (operation : String) (query : Store → α) :
    Quiet (read c operation query) :=
  (quiet_readStore c query).rephrase _

/-! ## Where faults come from -/

/-- Whether every fault of a step satisfies the predicate. -/
def Blames (P : Fault → Prop) (x : Engine σ α) : Prop := ∀ w e, (x w).1 = .error e → P e

/-- A fault of one step after another is a fault of one of them. -/
theorem Blames.bind {P : Fault → Prop} {x : Engine σ α} {f : α → Engine σ β} (hx : Blames P x)
    (hf : ∀ a, Blames P (f a)) : Blames P (x >>= f) := by
  intro w e he
  rcases hw : x w with ⟨e' | a, w₁⟩
  · rw [bind_error f hw] at he
    obtain rfl := Except.error.inj he
    exact hx w e' (by rw [hw])
  · rw [bind_ok f hw] at he
    exact hf a w₁ e he

/-- Other words for a fault may make another predicate true of it. -/
theorem Blames.rephrase {P Q : Fault → Prop} {x : Engine σ α} (hx : Blames P x)
    {f : Fault → Fault} (hf : ∀ e, P e → Q (f e)) : Blames Q (rephrase f x) := by
  intro w e he
  rcases hw : x w with ⟨e' | a, w₁⟩
  · rw [rephrase_error f hw] at he
    obtain rfl := Except.error.inj he
    exact hf e' (hx w e' (by rw [hw]))
  · rw [rephrase_ok f hw] at he
    cases he

theorem blames_pure (P : Fault → Prop) (a : α) : Blames P (pure a : Engine σ α) := by
  intro w e he
  cases he

theorem blames_ofOutcome {P : Fault → Prop} {x : Outcome α} (h : ∀ e, x = .error e → P e) :
    Blames P (ofOutcome x : Engine σ α) := fun _ => h

theorem blames_consult {P : Fault → Prop} {f : σ → Outcome α × σ}
    (h : ∀ s e, (f s).1 = .error e → P e) : Blames P (consult f) := fun w => h w.outside

theorem blames_look (P : Fault → Prop) (query : Store → α) :
    Blames P (look query : Engine σ α) := by
  intro w e he
  cases he

theorem blames_replaceStore (P : Fault → Prop) (s : Store) :
    Blames P (replaceStore s : Engine σ Unit) := by
  intro w e he
  cases he

/-- What is drawn from the store may be of use in showing where a fault comes from. -/
theorem blames_look_bind {P : Fault → Prop} {query : Store → α} {f : α → Engine σ β}
    (h : ∀ s, Blames P (f (query s))) : Blames P (look query >>= f) := by
  intro w e he
  rw [bind_ok f (rfl : look query w = (.ok (query w.store), w))] at he
  exact h w.store w e he

end Engine

end CardPayments
