import TensorShape.Proofs.Diagnostic.Data

/-! # What a failed call complains of

A call that fails ends with a fault, or with a diagnostic that tells an operation, a code and data.
Calls in sequence fail as the first of them that does. Two failures are alike if they are faults of
one category or diagnostics of one code, whatever else they tell.
-/

namespace TensorShape

/-- What a failed call tells: its fault, or the operation that rejects it, with a code and data. -/
inductive Complaint where
  | fault (f : Fault)
  | rejection (op : Operation) (c : Code) (data : List (String × Value))

def Complaint.sort : Complaint → Category ⊕ Code
  | .fault f => .inl f.category
  | .rejection _ c _ => .inr c

theorem exists_first_not {α : Type} {P : α → Prop} {xs : List α} (h : ∃ x ∈ xs, ¬ P x) :
    ∃ (k : ℕ) (x : α), xs[k]? = some x ∧ ¬ P x ∧ ∀ m < k, ∀ y, xs[m]? = some y → P y := by
  induction xs with
  | nil =>
    obtain ⟨x, hmem, -⟩ := h
    exact absurd hmem List.not_mem_nil
  | cons x xs ih =>
    by_cases hx : P x
    · obtain ⟨y, hmem, hy⟩ := h
      have htail : y ∈ xs := (List.mem_cons.mp hmem).resolve_left fun heq => hy (heq ▸ hx)
      obtain ⟨k, z, hat, hz, hbefore⟩ := ih ⟨y, htail, hy⟩
      refine ⟨k + 1, z, hat, hz, fun m hm w hw => ?_⟩
      cases m with
      | zero =>
        cases hw
        exact hx
      | succ m => exact hbefore m (Nat.lt_of_succ_lt_succ hm) w hw
    · exact ⟨0, x, rfl, hx, fun m hm => absurd hm (Nat.not_lt_zero m)⟩

namespace Outcome

variable {α β : Type} {x : Outcome α} {y : Outcome β} {c d : Complaint}

def FailsAs (x : Outcome α) : Complaint → Prop
  | .fault f => x.result = .error (.fault f)
  | .rejection op c data => x.RejectedAs op c data

/-- Both calls fail, with faults of one category or with diagnostics of one code. -/
def FailAlike (x : Outcome α) (y : Outcome β) : Prop :=
  (∃ c, x.FaultsWith c ∧ y.FaultsWith c) ∨ ∃ c, x.RejectedWith c ∧ y.RejectedWith c

theorem FailsAs.of_result (h : x.FailsAs c)
    (hy : ∀ e, x.result = .error e → y.result = .error e) : y.FailsAs c := by
  cases c with
  | fault f => exact hy _ h
  | rejection op c data =>
    obtain ⟨d, hd, htells⟩ := h
    exact ⟨d, hy _ hd, htells⟩

theorem FailsAs.bind (h : x.FailsAs c) (f : α → Outcome β) : (x >>= f).FailsAs c :=
  h.of_result fun _ he => result_bind_eq_error.mpr (Or.inl he)

theorem FailsAs.not_succeeds (h : x.FailsAs c) : ¬ x.Succeeds := by
  rintro ⟨a, ha⟩
  cases c with
  | fault f => cases ha.symm.trans h
  | rejection op c data =>
    obtain ⟨d, hd, -⟩ := h
    cases ha.symm.trans hd

theorem FailsAs.rejectedWith {code : Code} (h : x.FailsAs c) (hc : c.sort = .inr code) :
    x.RejectedWith code := by
  cases c with
  | fault f => cases hc
  | rejection op c data =>
    obtain ⟨d, hd, hcode, -⟩ := h
    cases hc
    exact ⟨d, hd, hcode⟩

theorem FailsAs.failAlike (hx : x.FailsAs c) (hy : y.FailsAs d) (h : d.sort = c.sort) :
    x.FailAlike y := by
  cases c with
  | fault f =>
    cases d with
    | fault g => exact Or.inl ⟨f.category, ⟨f, hx, rfl⟩, g, hy, Sum.inl.inj h⟩
    | rejection op c data => cases h
  | rejection op code data => exact Or.inr ⟨code, hx.rejectedWith rfl, hy.rejectedWith h⟩

theorem FailsAs.mapM {f : α → Outcome β} {xs : List α} {k : ℕ} {x : α} (hat : xs[k]? = some x)
    (h : (f x).FailsAs c) (hbefore : ∀ m < k, ∀ y, xs[m]? = some y → (f y).Succeeds) :
    (xs.mapM f).FailsAs c := by
  obtain ⟨hk, rfl⟩ := List.getElem?_eq_some_iff.mp hat
  exact h.of_result fun _ he => result_mapM_eq_error.mpr
    ⟨k, hk, fun m hm => hbefore m hm _ (List.getElem?_eq_getElem _), he⟩

theorem FailsAs.forM {f : α → Outcome Unit} {xs : List α} {k : ℕ} {x : α} (hat : xs[k]? = some x)
    (h : (f x).FailsAs c) (hbefore : ∀ m < k, ∀ y, xs[m]? = some y → (f y).Succeeds) :
    (xs.forM f).FailsAs c := by
  rw [forM_eq_mapM]
  exact (FailsAs.mapM hat h hbefore).bind _

end Outcome

theorem Violation.failsAs_reject {α : Type} {v : Violation}
    (h : ∀ given ∈ v.givenValues, given.IsKeptItem) :
    (reject v : Outcome α).FailsAs (.rejection v.operation v.code v.data) :=
  rejectedAs_reject h

theorem Violation.failsAs_reject_of_unquoted {α : Type} {v : Violation} (h : v.givenValues = []) :
    (reject v : Outcome α).FailsAs (.rejection v.operation v.code v.data) :=
  failsAs_reject fun _ hm => absurd (h ▸ hm) List.not_mem_nil

end TensorShape
