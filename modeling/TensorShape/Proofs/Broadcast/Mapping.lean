import Mathlib.Data.Int.Order.Basic
import Mathlib.Data.List.Chain
import TensorShape.Broadcast.Mapping
import TensorShape.Proofs.Alignment
import TensorShape.Proofs.Sequencing

/-! # Accepted mappings

A mapping is accepted exactly if every source axis lands on a target axis that takes its dimension
and no two of them are out of order, neighbours or not. Ascending targets are always in order, so
the mapping to the last axes is accepted exactly if the dimensions fit at every position counted
from the end.
-/

namespace TensorShape

variable {source target : Shape} {axes : List Int} {previous current next : MappedAxis}

/-- A source axis lies on an axis of the target, and has dimension one or that of its target. -/
def Lands (target : Shape) (current : MappedAxis) : Prop :=
  (0 ≤ current.1 ∧ current.1 < target.length) ∧
    (current.2 = 1 ∨ entryAt? target current.1 = some current.2)

/-- Two source axes have ascending targets, or share one and both have dimension one. -/
def Follows (previous current : MappedAxis) : Prop :=
  previous.1 ≤ current.1 ∧ (current.1 = previous.1 → previous.2 = 1 ∧ current.2 = 1)

theorem Follows.of_lt (h : previous.1 < current.1) : Follows previous current :=
  ⟨h.le, fun he => absurd he h.ne'⟩

instance : IsTrans MappedAxis Follows where
  trans a b c hab hbc := by
    refine ⟨hab.1.trans hbc.1, fun hca => ?_⟩
    have hba : b.1 = a.1 := le_antisymm (hbc.1.trans hca.le) hab.1
    exact ⟨(hab.2 hba).1, (hbc.2 (hca.trans hba.symm)).2⟩

theorem dimensionViolation?_eq_none_iff :
    dimensionViolation? source target axes current = none ↔
      current.2 = 1 ∨ entryAt? target current.1 = some current.2 := by
  unfold dimensionViolation?
  split
  · rename_i h
    simp [h]
  · rename_i h
    simp only [true_iff]
    tauto

theorem orderViolation?_eq_none_iff :
    orderViolation? source target axes (some previous) current = none ↔
      Follows previous current := by
  obtain ⟨last, lastDim⟩ := previous
  obtain ⟨axis, dim⟩ := current
  simp only [orderViolation?, Follows]
  split
  · simp only [reduceCtorEq, false_iff]
    omega
  · split <;> simp only [reduceCtorEq, false_iff, true_iff] <;> omega

theorem axisViolation?_eq_none_iff {previous : Option MappedAxis} :
    axisViolation? source target axes previous current = none ↔
      Lands target current ∧ ∀ p ∈ previous, Follows p current := by
  have hrange : ¬ (current.1 < 0 ∨ (target.length : ℤ) ≤ current.1) ↔
      0 ≤ current.1 ∧ current.1 < target.length := by omega
  unfold axisViolation? Lands
  split
  · rename_i h
    simp only [reduceCtorEq, false_iff]
    tauto
  · rename_i h
    rw [hrange] at h
    rw [Option.or_eq_none_iff, dimensionViolation?_eq_none_iff]
    cases previous with
    | none => simp [orderViolation?, h]
    | some p =>
      rw [orderViolation?_eq_none_iff]
      simp only [h, true_and, Option.mem_some_iff, forall_eq']
      exact and_comm

theorem firstViolation?_eq_none_iff {previous : Option MappedAxis} {mapped : List MappedAxis} :
    firstViolation? source target axes previous mapped = none ↔
      (∀ current ∈ mapped, Lands target current) ∧
        List.IsChain Follows (previous.toList ++ mapped) := by
  induction mapped generalizing previous with
  | nil => cases previous <;> simp [firstViolation?]
  | cons current rest ih =>
    rw [firstViolation?, Option.or_eq_none_iff, axisViolation?_eq_none_iff, ih,
      List.forall_mem_cons]
    cases previous with
    | none => simp [and_assoc]
    | some p =>
      simp only [Option.mem_some_iff, forall_eq', Option.toList_some, List.cons_append,
        List.nil_append, List.isChain_cons_cons]
      tauto

/-- A mapping is accepted exactly if there is one target for each source axis, every source axis
lands on its target, and all pairs of source axes are in order. -/
theorem result_checkMapping_eq_ok :
    (checkMapping source target axes).result = .ok () ↔
      axes.length = source.length ∧ source.length ≤ target.length ∧
        (∀ current ∈ axes.zip source, Lands target current) ∧
          (axes.zip source).Pairwise Follows := by
  have hfirst : firstViolation? source target axes none (axes.zip source) = none ↔ _ :=
    firstViolation?_eq_none_iff
  -- The scan compares neighbours only; the order is transitive, so all pairs are in order.
  rw [Option.toList_none, List.nil_append, List.isChain_iff_pairwise] at hfirst
  rw [← hfirst, checkMapping]
  split
  · rename_i h
    simp only [result_reject_ne_ok, h, false_and]
  · rename_i h
    rw [not_not] at h
    split
    · rename_i hrank
      simp only [result_reject_ne_ok, Nat.not_le.mpr hrank, false_and, and_false]
    · rename_i hrank
      simp only [h, Nat.le_of_not_lt hrank, true_and]
      split
      · rename_i v hv
        simp only [result_reject_ne_ok, hv, reduceCtorEq]
      · rename_i hv
        simp only [hv, Outcome.result_pure]

theorem pairwise_follows_of_lt (hlen : axes.length = source.length)
    (h : axes.Pairwise (· < ·)) : (axes.zip source).Pairwise Follows := by
  rw [← List.map_fst_zip hlen.le] at h
  exact (List.pairwise_map.mp h).imp .of_lt

end TensorShape
