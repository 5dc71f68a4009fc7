import CardPayments.Store

/-!
# Units of work

A unit of work changes a copy of the store. What is committed stays; what was changed after the
last commit is lost when the unit of work is rolled back or ends in a fault. Without a commit of
its own a writing unit of work is committed at its end. A reading one keeps nothing.
-/

namespace CardPayments

/-- What a unit of work is opened for. -/
inductive Access where
  /-- To look things up. -/
  | reading
  /-- To change things. -/
  | writing
  deriving DecidableEq, Repr

/-- A unit of work in progress. -/
structure Session where
  /-- What it was opened for. -/
  access : Access
  /-- The store as committed. -/
  saved : Store
  /-- The store as changed so far. -/
  working : Store
  /-- Whether the last word was a commit of its own. -/
  committed : Bool

namespace Session

/-- A new unit of work. -/
def start (access : Access) (s : Store) : Session := ⟨access, s, s, false⟩

/-- Keeps the changes so far, unless the unit of work only reads. -/
def commit (u : Session) : Session :=
  match u.access with
  | .reading => { u with committed := true }
  | .writing => { u with saved := u.working, committed := true }

/-- Drops the changes since the last commit. -/
def rollback (u : Session) : Session := { u with working := u.saved, committed := false }

/-- Whether a unit of work that ends without a fault is still to be committed. -/
def wantsCommit (u : Session) : Bool := u.access == .writing && !u.committed

end Session

end CardPayments
