import Mathlib.Data.List.Basic
import TensorShape.Proofs.Diagnostic.Reporting

/-! # How calls end

A call ends in one of three ways: with an answer and no record, with the rejection of a violation,
or with a fault and no record. Calls in sequence end in the same ways, so what may end an operation
is read off its parts.
-/

namespace TensorShape

namespace Outcome

variable {α β : Type}

/-- The call is an answer, the rejection of a violation of the one kind or a fault of the other. -/
inductive Ends (V : Violation → Prop) (F : Fault → Prop) : Outcome α → Prop
  | answer (a : α) : Ends V F (pure a)
  | rejection {v : Violation} (h : V v) : Ends V F (reject v)
  | fault {f : Fault} (h : F f) : Ends V F (Outcome.fault f)

variable {V W : Violation → Prop} {F G : Fault → Prop} {x : Outcome α} {xs : List α}

namespace Ends

theorem mono (h : x.Ends V F) (hV : ∀ v, V v → W v) (hF : ∀ f, F f → G f) : x.Ends W G := by
  cases h with
  | answer a => exact .answer a
  | rejection hv => exact .rejection (hV _ hv)
  | fault hf => exact .fault (hF _ hf)

theorem mono_fault (h : x.Ends V F) (hF : ∀ f, F f → G f) : x.Ends V G :=
  h.mono (fun _ hv => hv) hF

theorem mono_violation (h : x.Ends V F) (hV : ∀ v, V v → W v) : x.Ends W F :=
  h.mono hV fun _ hf => hf

theorem bind {g : α → Outcome β} (h : x.Ends V F)
    (hg : ∀ a, x.result = .ok a → (g a).Ends V F) : (x >>= g).Ends V F := by
  cases h with
  | answer a =>
    rw [pure_bind]
    exact hg a (result_pure a)
  | rejection hv =>
    rw [reject_bind]
    exact .rejection hv
  | fault hf =>
    rw [fault_bind]
    exact .fault hf

theorem mapM {g : α → Outcome β} (h : ∀ a ∈ xs, (g a).Ends V F) : (xs.mapM g).Ends V F := by
  induction xs with
  | nil => exact .answer []
  | cons a xs ih =>
    rw [List.forall_mem_cons] at h
    rw [List.mapM_cons]
    exact h.1.bind fun b _ => (ih h.2).bind fun bs _ => .answer (b :: bs)

theorem forM {g : α → Outcome Unit} (h : ∀ a ∈ xs, (g a).Ends V F) : (xs.forM g).Ends V F := by
  induction xs with
  | nil => exact .answer ()
  | cons a xs ih =>
    rw [List.forall_mem_cons] at h
    rw [forM_cons]
    exact h.1.bind fun _ _ => ih h.2

theorem eq_pure {a : α} (h : x.Ends V F) (ha : x.result = .ok a) : x = pure a := by
  cases h with
  | answer b => rw [result_pure_eq_ok.mp ha]
  | rejection hv => exact absurd ha (result_reject_ne_ok _ _)
  | fault hf => cases ha

end Ends

/-- A rejection is a diagnostic, unless none can be built. -/
theorem result_reject (v : Violation) :
    (∃ d, v.diagnose.result = .ok d ∧ (reject v : Outcome α).result = .error (.rejected d)) ∨
      ∃ defect, (reject v : Outcome α).result = .error (.fault (.defect defect)) := by
  rw [reject, Violation.diagnose_eq_build]
  cases v.draft.build .validation with
  | ok d => exact Or.inl ⟨d, rfl, rfl⟩
  | error defect => exact Or.inr ⟨defect, rfl⟩

theorem Ends.fault_of_result {f : Fault} (h : x.Ends V F) (hf : x.result = .error (.fault f)) :
    F f ∨ ∃ defect, f = .defect defect := by
  cases h with
  | answer a => cases hf
  | rejection hv =>
    rename_i v
    rcases result_reject (α := α) v with ⟨d, -, hd⟩ | ⟨defect, hd⟩
    · cases hd.symm.trans hf
    · cases hd.symm.trans hf
      exact Or.inr ⟨defect, rfl⟩
  | fault hg =>
    cases hf
    exact Or.inl hg

theorem Ends.eq_fault {f : Fault} (h : x.Ends V F) (hf : x.result = .error (.fault f))
    (hdefect : ∀ defect, f ≠ .defect defect) : x = Outcome.fault f := by
  cases h with
  | answer a => cases hf
  | rejection hv =>
    rename_i v
    rcases result_reject (α := α) v with ⟨d, -, hd⟩ | ⟨defect, hd⟩
    · cases hd.symm.trans hf
    · cases hd.symm.trans hf
      exact absurd rfl (hdefect defect)
  | fault hg =>
    cases hf
    rfl

end Outcome

end TensorShape
