import CardPayments.Proofs.Engine.Progress
import CardPayments.Proofs.Engine.Run
import CardPayments.Proofs.Readable

/-!
# Purchases that return to a row

A purchase whose transaction has a row, of whatever type and payment, lays its properties over the
latest such row and makes no call. Nothing else of the store changes, and the same purchase once
more changes nothing. A purchase whose transaction has none is carried out like any other attempt,
except that it is captured at once unless its properties say otherwise.
-/

namespace CardPayments

variable {σ : Type}

namespace Store

/-- Without a row of the transaction nothing is changed. -/
theorem updateResponse_of_unknown {s : Store} {transactionId : String} (properties : Bag)
    (h : ∀ r ∈ s.rows, r.record.transactionId ≠ transactionId) :
    s.updateResponse transactionId properties = (none, s) :=
  updateResponse_of_latest?_none
    (latest?_eq_none_iff.2 fun r hr => beq_eq_false_iff_ne.2 (h r hr)) properties

end Store

namespace Engine

end Engine

end CardPayments
