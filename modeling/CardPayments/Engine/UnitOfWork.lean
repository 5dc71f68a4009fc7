import CardPayments.Engine.World

/-!
# Longer units of work

A unit of work may do several things and may commit or roll back between them. It ends at the first
fault, and then only what was committed stays; otherwise a writing one is committed at its end,
unless its last word was a commit of its own.
-/

namespace CardPayments

/-- One thing that is done in a unit of work. -/
inductive WorkItem (α : Type) where
  /-- Keep the changes so far. -/
  | commit
  /-- Drop the changes since the last commit. -/
  | rollback
  /-- Look something up or change something. -/
  | work (f : Store → Outcome (α × Store))

namespace Engine

variable {σ α : Type}

/-- A step whose fault is part of its answer. -/
def settle (x : Engine σ α) : Engine σ (Outcome α) := ExceptT.mk fun w =>
  ((.ok (x w).1 : Outcome (Outcome α)), (x w).2)

/-- Commits a unit of work. -/
def commitSession (c : Collaborators σ) (u : Session) : Engine σ Session := do
  consult c.committing
  replaceStore u.commit.saved
  pure u.commit

/-- Does one thing in a unit of work. Only looking up and changing have an answer. -/
def perform (c : Collaborators σ) (u : Session) : WorkItem α → Engine σ (Option α × Session)
  | .commit => do
    let u ← commitSession c u
    pure (none, u)
  | .rollback => pure (none, u.rollback)
  | .work f => do
    let (a, s) ← ofOutcome (f u.working)
    pure (some a, { u with working := s })

/-- Does one thing after another up to the first fault. The answers so far are kept. -/
def performAll (c : Collaborators σ) :
    Session → List (WorkItem α) → Engine σ (List (Option α) × Outcome Session)
  | u, [] => pure ([], .ok u)
  | u, item :: items => do
    match ← settle (perform c u item) with
    | .error e => pure ([], .error e)
    | .ok (answer, u) =>
      let (answers, u) ← performAll c u items
      pure (answer :: answers, u)

/-- Ends a unit of work without a fault. -/
def finishSession (c : Collaborators σ) (u : Session) : Engine σ Unit :=
  if u.wantsCommit then do
    let _ ← commitSession c u
  else pure ()

/-- A unit of work that does these things and then ends as given. -/
def unitOfWork (c : Collaborators σ) (access : Access) (items : List (WorkItem α))
    (ending : Outcome Unit) : Engine σ (List (Option α) × Outcome Unit) := do
  match ← settle (consult (c.opening access)) with
  | .error e => pure ([], .error e)
  | .ok () =>
    let (answers, u) ← performAll c (Session.start access (← look id)) items
    match u, ending with
    | .error e, _ => pure (answers, .error e)
    | .ok _, .error e => pure (answers, .error e)
    | .ok u, .ok () =>
      let finished ← settle (finishSession c u)
      pure (answers, finished)

end Engine

end CardPayments
