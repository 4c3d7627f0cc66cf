import TensorShape.Proofs.Attachment
import TensorShape.Proofs.Ending.Complaint

/-! # Operands

A shape and the names that a caller gives for its axes, none at all or a list of any length. Where
the names are as many as the axes the operand is a named shape; otherwise every operation that asks
for its names complains of their number.
-/

namespace TensorShape

open Outcome

structure Operand where
  dims : Shape
  names : Option (List AxisName)

namespace Operand

variable {o : Operand} {c : Complaint}

def given (o : Operand) : GivenNames := .ofNames o.names

/-- No names are given, or one for each axis. -/
def Named (o : Operand) : Prop := ∀ ns ∈ o.names, ns.length = o.dims.length

instance (o : Operand) : Decidable o.Named :=
  inferInstanceAs (Decidable (∀ ns ∈ o.names, ns.length = o.dims.length))

/-- The axes with the names that are given for them; without names where none are given. -/
def shape (o : Operand) : NamedShape := o.given.on o.dims

inductive Misnamed (o : Operand) : Complaint → Prop
  | count {ns : List AxisName} : o.names = some ns → ns.length ≠ o.dims.length →
    Misnamed o (.rejection .naming .rankMismatch
      [("rank", .nat o.dims.length), ("names", .tuple (ns.map AxisName.toValue))])

theorem named_or_misnamed (o : Operand) : o.Named ∨ ∃ c, o.Misnamed c := by
  by_cases h : o.Named
  · exact Or.inl h
  · simp only [Named, not_forall] at h
    obtain ⟨ns, hns, hlen⟩ := h
    exact Or.inr ⟨_, .count hns hlen⟩

theorem Misnamed.sort_eq (h : o.Misnamed c) : c.sort = .inr .rankMismatch := by
  cases h
  rfl

theorem Named.assign_given (h : o.Named) : o.given.assign o.dims = pure o.shape.names := by
  obtain ⟨assigned, hassigned⟩ := GivenNames.succeeds_assign_ofNames.mpr h
  exact (GivenNames.assign_eq_pure hassigned).trans
    (congrArg pure (GivenNames.read_eq_of_assign hassigned).symm)

theorem Named.aligned (h : o.Named) : o.shape.Aligned :=
  GivenNames.aligned_on (h.assign_given ▸ result_pure _)

theorem Misnamed.failsAs_assign (h : o.Misnamed c) : (o.given.assign o.dims).FailsAs c := by
  obtain ⟨hns, hlen⟩ := h
  rw [given, hns, GivenNames.assign_ofNames_of_length_ne hlen]
  exact Violation.failsAs_reject (List.forall_mem_map.mpr fun n _ => Value.isKeptItem_name n)

theorem Named.removeAxes_eq_pure (h : o.Named) (axes : List ℤ) :
    removeAxes o.dims axes o.given = pure (o.shape.erase axes) :=
  removeAxes_of_assign h.assign_given axes

theorem Misnamed.failsAs_removeAxes (h : o.Misnamed c) (axes : List ℤ) :
    (removeAxes o.dims axes o.given).FailsAs c :=
  h.failsAs_assign.bind _

end Operand

end TensorShape
