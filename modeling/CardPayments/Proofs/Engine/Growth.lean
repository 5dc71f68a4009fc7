import CardPayments.Engine.Form
import CardPayments.Notification.Intake
import CardPayments.Proofs.Engine.Course
import CardPayments.Proofs.Notification.Item

/-!
# What makes no call

Notifications never reach the gateway, and all that they do to the recorded responses is to add
some. This rests on their properties: whatever a notification brings, they say that the payment
comes from the hosted page. Opening a pending payment leaves the store alone, and so does a query.
-/

namespace CardPayments

variable {σ α β : Type}

/-- No call has been made, and rows have been added at most. -/
structure World.Grows (w w' : World σ) : Prop where
  /-- The same calls. -/
  calls : w'.calls = w.calls
  /-- The same rows, and perhaps newer ones. -/
  store : w.store.Extends w'.store

namespace World

theorem Grows.trans {u v w : World σ} (h : u.Grows v) (h' : v.Grows w) : u.Grows w :=
  ⟨h'.calls.trans h.calls, h.store.trans h'.store⟩

theorem Idle.grows {w w' : World σ} (h : w.Idle w') : w.Grows w' :=
  ⟨h.calls, .of_rows (congrArg Store.rows h.store)⟩

theorem Becomes.grows {w w' : World σ} {store : Store} (h : w.Becomes store [] w')
    (extends' : w.store.Extends store) : w.Grows w' := by
  refine ⟨h.calls_eq, ?_⟩
  rw [h.store]
  exact extends'

end World

/-- No call has been made, and the store is the same. -/
structure World.Still (w w' : World σ) : Prop where
  /-- The same calls. -/
  calls : w'.calls = w.calls
  /-- The same store. -/
  store : w'.store = w.store

/-- No call has been made, and one request of a hosted page has been filed at most. -/
structure World.Files (w w' : World σ) : Prop where
  /-- The same calls. -/
  calls : w'.calls = w.calls
  /-- The same store, or one with the request. -/
  store : w'.store = w.store ∨ ∃ request, w'.store = (w.store.addRequest request).2

namespace World

variable {u v w : World σ}

theorem Idle.still (h : v.Idle w) : v.Still w := ⟨h.calls, h.store⟩

theorem Still.trans (h : u.Still v) (h' : v.Still w) : u.Still w :=
  ⟨h'.calls.trans h.calls, h'.store.trans h.store⟩

theorem Still.files (h : v.Still w) : v.Files w := ⟨h.calls, Or.inl h.store⟩

theorem Still.trans_files (h : u.Still v) (h' : v.Files w) : u.Files w := by
  refine ⟨h'.calls.trans h.calls, ?_⟩
  rw [← h.store]
  exact h'.store

/-- A request of a hosted page is no row. -/
theorem Files.grows (h : v.Files w) : v.Grows w := by
  refine ⟨h.calls, .of_rows ?_⟩
  obtain hstore | ⟨request, hstore⟩ := h.store <;> rw [hstore]
  rfl

end World

/-- An attempt from the hosted page adds a row at most. -/
theorem Course.grows_of_flagged {c : Collaborators σ} {a : Attempt} {w w' : World σ}
    {r : Outcome TransactionInfo} (flagged : a.properties.affirms Property.fromHostedPage = true)
    (h : Course c a w r w') : w.Grows w' := by
  have excluded : a.properties.affirms Property.fromHostedPage ≠ false := by
    rw [flagged]
    exact Bool.noConfusion
  cases h with
  | refused idle early => exact idle.grows
  | replayed unflagged known idle => exact absurd unflagged excluded
  | noted flagged made becomes => exact becomes.grows (.addResponse _ _)
  | failed due failure becomes => exact absurd due.unflagged excluded
  | lost due answer late becomes => exact absurd due.unflagged excluded
  | recorded due answer made becomes => exact absurd due.unflagged excluded

namespace Engine

/-- What only looks around makes nothing grow. -/
theorem Quiet.grows {x : Engine σ α} (h : Quiet x) : Keeps World.Grows x := fun w => (h w).grows

theorem Quiet.still {x : Engine σ α} (h : Quiet x) : Keeps World.Still x := fun w => (h w).still

theorem Quiet.files {x : Engine σ α} (h : Quiet x) : Keeps World.Files x :=
  fun w => (h w).still.files

/-- One step after another leaves the store alone if both do. -/
theorem still_bind {x : Engine σ α} {f : α → Engine σ β} (hx : Keeps World.Still x)
    (hf : ∀ a, Keeps World.Still (f a)) : Keeps World.Still (x >>= f) :=
  Keeps.bind (R := World.Still) World.Still.trans hx hf

/-- What leaves the store alone may go before. -/
theorem files_bind {x : Engine σ α} {f : α → Engine σ β} (hx : Keeps World.Still x)
    (hf : ∀ a, Keeps World.Files (f a)) : Keeps World.Files (x >>= f) :=
  Keeps.bind_of (Q := World.Still) (R := World.Files) World.Still.files World.Still.trans_files
    hx hf

/-- One step after another makes no call if neither does. -/
theorem grows_bind {x : Engine σ α} {f : α → Engine σ β} (hx : Keeps World.Grows x)
    (hf : ∀ a, Keeps World.Grows (f a)) : Keeps World.Grows (x >>= f) :=
  Keeps.bind (fun h h' => h.trans h') hx hf

theorem grows_forM {f : α → Engine σ Unit} (hf : ∀ a, Keeps World.Grows (f a)) (as : List α) :
    Keeps World.Grows (as.forM f) := by
  induction as with
  | nil => exact (quiet_pure ()).grows
  | cons a as ih => exact grows_bind (hf a) fun _ => ih

/-! ## Notifications -/

/-- Taking an item in makes no call. -/
theorem grows_takeItem (c : Collaborators σ) (item : NotificationItem) :
    Keeps World.Grows (takeItem c item) := by
  unfold takeItem
  split
  · exact (quiet_pure ()).grows
  rename_i kind _
  refine grows_bind (quiet_readStore c _).grows fun found => ?_
  cases found with
  | none => exact (quiet_pure ()).grows
  | some found =>
    dsimp only
    split
    · refine grows_bind ?_ fun recorded => ?_
      · exact ((quiet_readStore c _).bind fun _ => quiet_pure _).grows
      · cases recorded with
        | true => exact (quiet_pure ()).grows
        | false =>
          refine grows_bind (fun w => ?_) fun _ => (quiet_pure ()).grows
          exact (course_of_process rfl).grows_of_flagged item.affirms_properties
    · split
      · exact (quiet_pure ()).grows
      · exact (quiet_throw _).grows

/-- Taking a notification in makes no call, and adds rows at most. -/
theorem grows_takeNotification (c : Collaborators σ) (s : String) :
    Keeps World.Grows (takeNotification c s) :=
  grows_bind (quiet_ofOutcome _).grows fun items =>
    grows_bind (grows_forM (grows_takeItem c) items) fun _ => (quiet_pure _).grows

/-! ## Pending payments and queries -/

theorem still_openPending (c : Collaborators σ) (account : Account) (amount : Decimal)
    (payment : PaymentData) (properties : Bag) :
    Keeps World.Still (openPending c account amount payment properties) := by
  unfold openPending
  split
  · refine still_bind (quiet_ask _).still fun answer => still_bind (fun w => ?_) fun _ => ?_
    · exact ⟨rfl, rfl⟩
    · exact ((quiet_ofOutcome _).bind fun _ => quiet_pure _).still
  · exact (quiet_pure _).still

theorem quiet_mapM {f : α → Engine σ β} (hf : ∀ a, Quiet (f a)) (as : List α) :
    Quiet (as.mapM f) := by
  induction as with
  | nil =>
    rw [List.mapM_nil]
    exact quiet_pure _
  | cons a as ih =>
    rw [List.mapM_cons]
    exact (hf a).bind fun _ => ih.bind fun _ => quiet_pure _

/-- A query changes nothing. -/
theorem quiet_paymentInfo (c : Collaborators σ) (paymentId : String) :
    Quiet (paymentInfo c paymentId) :=
  (quiet_read c _ _).bind fun _ => quiet_mapM (fun _ => quiet_ofOutcome _) _

end Engine

end CardPayments
