import Mathlib.Data.List.Forall2
import TensorShape.Outcome

/-! # Calls in sequence

A list of calls succeeds exactly if each of them does, and otherwise fails as the first one that
fails. Calls that leave no record leave none in sequence either.
-/

namespace TensorShape

namespace Outcome

variable {α β : Type} {xs : List α} {ys : List β}

/-- The answer of a call, if there is one. Unlike the result it can be compared. -/
def answer? (x : Outcome α) : Option α := x.result.toOption

def Succeeds (x : Outcome α) : Prop := ∃ a, x.result = .ok a

def RejectedWith (x : Outcome α) (c : Code) : Prop :=
  ∃ d, x.result = .error (.rejected d) ∧ d.code = c

def FaultsWith (x : Outcome α) (c : Category) : Prop :=
  ∃ f, x.result = .error (.fault f) ∧ f.category = c

theorem result_eq_ok_of_answer? {x : Outcome α} {a : α} (h : x.answer? = some a) :
    x.result = .ok a := by
  rw [answer?] at h
  cases hr : x.result with
  | ok b =>
    rw [hr] at h
    rw [Option.some.inj h]
  | error e =>
    rw [hr] at h
    cases h

theorem succeeds_pure (a : α) : (pure a : Outcome α).Succeeds := ⟨a, rfl⟩

theorem RejectedWith.not_succeeds {x : Outcome α} {c : Code} (h : x.RejectedWith c) :
    ¬ x.Succeeds := by
  rintro ⟨a, ha⟩
  obtain ⟨d, hd, -⟩ := h
  cases ha.symm.trans hd

theorem RejectedWith.unique {x : Outcome α} {c c' : Code} (h : x.RejectedWith c)
    (h' : x.RejectedWith c') : c = c' := by
  obtain ⟨d, hd, rfl⟩ := h
  obtain ⟨d', hd', rfl⟩ := h'
  cases hd.symm.trans hd'
  rfl

theorem RejectedWith.bind {x : Outcome α} {c : Code} (h : x.RejectedWith c) (f : α → Outcome β) :
    (x >>= f).RejectedWith c := by
  obtain ⟨d, hd, hc⟩ := h
  exact ⟨d, by rw [bind_of_error hd], hc⟩

theorem result_pure_eq_ok {a b : α} : (pure a : Outcome α).result = .ok b ↔ a = b := by
  rw [result_pure, Except.ok.injEq]

theorem bind_congr_of_ok {x : Outcome α} {f g : α → Outcome β}
    (h : ∀ a, x.result = .ok a → f a = g a) : x >>= f = x >>= g := by
  obtain ⟨log, e | a⟩ := x
  · rfl
  · rw [bind_of_ok rfl, bind_of_ok rfl, h a rfl]

theorem mapM_eq_pure {f : α → Outcome β} {g : α → β} (h : ∀ x ∈ xs, f x = pure (g x)) :
    xs.mapM f = pure (xs.map g) := by
  induction xs with
  | nil => rfl
  | cons x xs ih =>
    rw [List.forall_mem_cons] at h
    rw [List.mapM_cons, h.1, ih h.2, pure_bind, pure_bind, List.map_cons]

theorem mapM_eq_pure_of_forall₂ {f : α → Outcome β}
    (h : List.Forall₂ (fun x y => f x = pure y) xs ys) : xs.mapM f = pure ys := by
  induction h with
  | nil => rfl
  | cons hx _ ih => rw [List.mapM_cons, hx, pure_bind, ih, pure_bind]

theorem exists_result_of_mapM {f : α → Outcome β} (h : (xs.mapM f).result = .ok ys) :
    ∀ x ∈ xs, ∃ y, (f x).result = .ok y := by
  induction xs generalizing ys with
  | nil => exact fun _ hx => absurd hx List.not_mem_nil
  | cons x xs ih =>
    rw [List.mapM_cons, result_bind_eq_ok] at h
    obtain ⟨y, hy, h⟩ := h
    obtain ⟨zs, hzs, -⟩ := result_bind_eq_ok.mp h
    exact List.forall_mem_cons.mpr ⟨⟨y, hy⟩, ih hzs⟩

theorem forall₂_of_mapM {f : α → Outcome β} (h : (xs.mapM f).result = .ok ys) :
    List.Forall₂ (fun x y => (f x).result = .ok y) xs ys := by
  induction xs generalizing ys with
  | nil =>
    obtain rfl := result_pure_eq_ok.mp h
    exact .nil
  | cons x xs ih =>
    rw [List.mapM_cons, result_bind_eq_ok] at h
    obtain ⟨y, hy, h⟩ := h
    obtain ⟨zs, hzs, h⟩ := result_bind_eq_ok.mp h
    obtain rfl := result_pure_eq_ok.mp h
    exact .cons hy (ih hzs)

theorem length_of_mapM {f : α → Outcome β} (h : (xs.mapM f).result = .ok ys) :
    ys.length = xs.length :=
  (forall₂_of_mapM h).length_eq.symm

theorem forM_cons (f : α → Outcome Unit) (x : α) (xs : List α) :
    (x :: xs).forM f = f x >>= fun _ => xs.forM f := rfl

theorem forM_eq_pure {f : α → Outcome Unit} (h : ∀ x ∈ xs, f x = pure ()) :
    xs.forM f = pure () := by
  induction xs with
  | nil => rfl
  | cons x xs ih =>
    rw [List.forall_mem_cons] at h
    rw [forM_cons, h.1, pure_bind, ih h.2]

theorem result_forM_eq_ok {f : α → Outcome Unit} :
    (xs.forM f).result = .ok () ↔ ∀ x ∈ xs, (f x).result = .ok () := by
  induction xs with
  | nil => exact ⟨fun _ _ hx => absurd hx List.not_mem_nil, fun _ => rfl⟩
  | cons x xs ih =>
    rw [forM_cons, result_bind_eq_ok, List.forall_mem_cons, ih]
    exact ⟨fun ⟨_, hx, h⟩ => ⟨hx, h⟩, fun ⟨hx, h⟩ => ⟨(), hx, h⟩⟩

theorem result_mapM_eq_error {f : α → Outcome β} {e : Failure} :
    (xs.mapM f).result = .error e ↔ ∃ (i : ℕ) (hi : i < xs.length),
      (∀ (j : ℕ) (hj : j < i), (f xs[j]).Succeeds) ∧ (f xs[i]).result = .error e := by
  induction xs with
  | nil =>
    constructor
    · rintro ⟨⟩
    · rintro ⟨i, hi, -⟩
      exact absurd hi (Nat.not_lt_zero i)
  | cons x xs ih =>
    simp only [List.mapM_cons, result_bind_eq_error, ih, result_pure, reduceCtorEq, and_false,
      exists_false, or_false]
    constructor
    · rintro (h | ⟨y, hy, i, hi, hbefore, h⟩)
      · exact ⟨0, Nat.succ_pos _, fun j hj => absurd hj (Nat.not_lt_zero j), h⟩
      · refine ⟨i + 1, Nat.succ_lt_succ hi, fun j hj => ?_, h⟩
        cases j with
        | zero => exact ⟨y, hy⟩
        | succ j => exact hbefore j (Nat.lt_of_succ_lt_succ hj)
    · rintro ⟨i, hi, hbefore, h⟩
      cases i with
      | zero => exact Or.inl h
      | succ i =>
        obtain ⟨y, hy⟩ := hbefore 0 (Nat.succ_pos i)
        exact Or.inr ⟨y, hy, i, Nat.lt_of_succ_lt_succ hi,
          fun j hj => hbefore (j + 1) (Nat.succ_lt_succ hj), h⟩

theorem forM_eq_mapM (f : α → Outcome Unit) (xs : List α) :
    xs.forM f = xs.mapM f >>= fun _ => pure () := by
  induction xs with
  | nil => rfl
  | cons x xs ih => simp only [forM_cons, List.mapM_cons, ih, bind_assoc, pure_bind]

theorem result_forM_eq_error {f : α → Outcome Unit} {e : Failure} :
    (xs.forM f).result = .error e ↔ ∃ (i : ℕ) (hi : i < xs.length),
      (∀ (j : ℕ) (hj : j < i), (f xs[j]).Succeeds) ∧ (f xs[i]).result = .error e := by
  rw [forM_eq_mapM, ← result_mapM_eq_error, result_bind_eq_error]
  simp

section FaultsWith

variable {c : Category}

theorem faultsWith_fault {f : Fault} : (fault f : Outcome α).FaultsWith c ↔ f.category = c := by
  constructor
  · rintro ⟨g, hg, hc⟩
    cases hg
    exact hc
  · exact fun hc => ⟨f, rfl, hc⟩

theorem not_faultsWith_pure (a : α) : ¬ (pure a : Outcome α).FaultsWith c := by
  rintro ⟨f, hf, -⟩
  cases hf

theorem faultsWith_bind {x : Outcome α} {g : α → Outcome β} :
    (x >>= g).FaultsWith c ↔
      x.FaultsWith c ∨ ∃ a, x.result = .ok a ∧ (g a).FaultsWith c := by
  constructor
  · rintro ⟨f, hf, hc⟩
    rcases result_bind_eq_error.mp hf with hx | ⟨a, ha, hg⟩
    · exact Or.inl ⟨f, hx, hc⟩
    · exact Or.inr ⟨a, ha, f, hg, hc⟩
  · rintro (⟨f, hf, hc⟩ | ⟨a, ha, f, hf, hc⟩)
    · exact ⟨f, result_bind_eq_error.mpr (Or.inl hf), hc⟩
    · exact ⟨f, result_bind_eq_error.mpr (Or.inr ⟨a, ha, hf⟩), hc⟩

theorem faultsWith_forM {g : α → Outcome Unit} :
    (xs.forM g).FaultsWith c ↔ ∃ (i : ℕ) (hi : i < xs.length),
      (∀ (j : ℕ) (hj : j < i), (g xs[j]).Succeeds) ∧ (g xs[i]).FaultsWith c := by
  constructor
  · rintro ⟨f, hf, hc⟩
    obtain ⟨i, hi, hbefore, hg⟩ := result_forM_eq_error.mp hf
    exact ⟨i, hi, hbefore, f, hg, hc⟩
  · rintro ⟨i, hi, hbefore, f, hg, hc⟩
    exact ⟨f, result_forM_eq_error.mpr ⟨i, hi, hbefore, hg⟩, hc⟩

end FaultsWith

end Outcome

end TensorShape
