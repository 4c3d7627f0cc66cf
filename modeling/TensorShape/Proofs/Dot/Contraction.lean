import TensorShape.Dot
import TensorShape.Proofs.Axis.Repetition
import TensorShape.Proofs.Diagnostic.Reporting
import TensorShape.Proofs.Removal

/-! # Contractions that succeed

A contraction needs pairs of axes with equal dimensions and a result without a repeated name. Once
the dimensions match, a repeated name is the only failure that is left.
-/

namespace TensorShape

/-- The axes of two shapes exist and have the same dimensions, in order. -/
def Matching (lhs rhs : Shape) (lhsAxes rhsAxes : List ℤ) : Prop :=
  ∃ dims : Shape, lhsAxes.map (entryFromEitherEnd? lhs) = dims.map some ∧
    rhsAxes.map (entryFromEitherEnd? rhs) = dims.map some

section Matching

variable {lhs rhs lhs' rhs' : Shape} {a b a' b' : List ℤ} {i j : ℤ}

theorem Matching.congr (h : Matching lhs rhs a b)
    (ha : a'.map (entryFromEitherEnd? lhs') = a.map (entryFromEitherEnd? lhs))
    (hb : b'.map (entryFromEitherEnd? rhs') = b.map (entryFromEitherEnd? rhs)) :
    Matching lhs' rhs' a' b' := by
  obtain ⟨dims, hl, hr⟩ := h
  exact ⟨dims, ha.trans hl, hb.trans hr⟩

theorem Matching.length_eq (h : Matching lhs rhs a b) : a.length = b.length := by
  obtain ⟨dims, hl, hr⟩ := h
  simpa using congrArg List.length (hl.trans hr.symm)

theorem matching_cons_iff :
    Matching lhs rhs (i :: a) (j :: b) ↔
      (∃ d, entryFromEitherEnd? lhs i = some d ∧ entryFromEitherEnd? rhs j = some d) ∧
        Matching lhs rhs a b := by
  constructor
  · rintro ⟨_ | ⟨d, dims⟩, hl, hr⟩
    · cases hl
    · obtain ⟨hi, hl⟩ := List.cons.inj hl
      obtain ⟨hj, hr⟩ := List.cons.inj hr
      exact ⟨⟨d, hi, hj⟩, dims, hl, hr⟩
  · rintro ⟨⟨d, hi, hj⟩, dims, hl, hr⟩
    exact ⟨d :: dims, by rw [List.map_cons, List.map_cons, hi, hl],
      by rw [List.map_cons, List.map_cons, hj, hr]⟩

theorem matching_iff_zip :
    Matching lhs rhs a b ↔ a.length = b.length ∧ ∀ axes ∈ a.zip b,
      ∃ d, entryFromEitherEnd? lhs axes.1 = some d ∧ entryFromEitherEnd? rhs axes.2 = some d := by
  induction a generalizing b with
  | nil =>
    constructor
    · exact fun h => ⟨h.length_eq, fun _ hm => absurd hm List.not_mem_nil⟩
    · rintro ⟨hlen, -⟩
      obtain rfl := List.length_eq_zero_iff.mp hlen.symm
      exact ⟨[], rfl, rfl⟩
  | cons i a ih =>
    cases b with
    | nil => exact ⟨fun h => absurd h.length_eq (by simp), fun h => absurd h.1 (by simp)⟩
    | cons j b =>
      rw [matching_cons_iff, ih, List.zip_cons_cons, List.forall_mem_cons, List.length_cons,
        List.length_cons, Nat.add_right_cancel_iff]
      exact and_left_comm

theorem result_dimensionAt_eq_ok {dims : Shape} {axis d : ℤ} :
    (dimensionAt dims axis).result = .ok d ↔ entryFromEitherEnd? dims axis = some d := by
  unfold dimensionAt
  cases h : entryFromEitherEnd? dims axis with
  | none => simp [Outcome.fault]
  | some e => rw [Outcome.result_pure_eq_ok, Option.some.injEq]

theorem checkContracted_eq_pure {axes : ℤ × ℤ} {d : ℤ}
    (hl : entryFromEitherEnd? lhs axes.1 = some d)
    (hr : entryFromEitherEnd? rhs axes.2 = some d) : checkContracted lhs rhs axes = pure () := by
  simp only [checkContracted, dimensionAt, hl, hr, pure_bind, if_true]

theorem exists_of_checkContracted {axes : ℤ × ℤ}
    (h : (checkContracted lhs rhs axes).result = .ok ()) :
    ∃ d, entryFromEitherEnd? lhs axes.1 = some d ∧ entryFromEitherEnd? rhs axes.2 = some d := by
  simp only [checkContracted, Outcome.result_bind_eq_ok, result_dimensionAt_eq_ok] at h
  obtain ⟨d, hl, e, hr, h⟩ := h
  split at h
  · rename_i he
    exact ⟨d, hl, he ▸ hr⟩
  · exact absurd h (result_reject_ne_ok _ _)

theorem Matching.forM_eq_pure (h : Matching lhs rhs a b) :
    (a.zip b).forM (checkContracted lhs rhs) = pure () := by
  apply Outcome.forM_eq_pure
  intro axes haxes
  obtain ⟨d, hl, hr⟩ := (matching_iff_zip.mp h).2 axes haxes
  exact checkContracted_eq_pure hl hr

theorem matching_of_forM (hlen : a.length = b.length)
    (h : ((a.zip b).forM (checkContracted lhs rhs)).result = .ok ()) : Matching lhs rhs a b :=
  matching_iff_zip.mpr
    ⟨hlen, fun axes haxes => exists_of_checkContracted (Outcome.result_forM_eq_ok.mp h axes haxes)⟩

theorem matching_of_dot {lhsNames rhsNames : GivenNames} {r : NamedShape}
    (h : (dot lhs a lhsNames rhs b rhsNames).result = .ok r) : Matching lhs rhs a b := by
  rw [dot] at h
  split at h
  · exact absurd h (result_reject_ne_ok _ _)
  · rename_i hlen
    obtain ⟨_, hforM, -⟩ := Outcome.result_bind_eq_ok.mp h
    exact matching_of_forM (not_not.mp hlen) hforM

end Matching

theorem repeatedNames_eq_nil {names : List AxisName} (h : ∀ n ∈ names, n = none) :
    repeatedNames names = [] := by
  have hnone : names.reduceOption = [] := List.filterMap_eq_nil_iff.mpr h
  rw [repeatedNames_eq_nil_iff, hnone]
  exact List.nodup_nil

namespace NamedShape

def contract (s : NamedShape) (a : List ℤ) (t : NamedShape) (b : List ℤ) : NamedShape :=
  (s.erase a).append (t.erase b)

variable {s t : NamedShape} {a b : List ℤ}

theorem aligned_contract (hs : s.Aligned) (ht : t.Aligned) (a b : List ℤ) :
    (s.contract a t b).Aligned :=
  (LabelledShape.aligned_erase hs a).append (LabelledShape.aligned_erase ht b)

theorem forall_mem_contract_names {P : AxisName → Prop} (hs : ∀ n ∈ s.names, P n)
    (ht : ∀ n ∈ t.names, P n) : ∀ n ∈ (s.contract a t b).names, P n := by
  intro n hn
  rcases List.mem_append.mp hn with hn | hn
  · exact hs n ((eraseAxes_sublist a s.names).subset hn)
  · exact ht n ((eraseAxes_sublist b t.names).subset hn)

theorem dot_eq_ite (hs : s.Aligned) (ht : t.Aligned) (h : Matching s.dims t.dims a b) :
    dot s.dims a s.given t.dims b t.given =
      if repeatedNames (s.contract a t b).names = [] then pure (s.contract a t b)
      else reject (.contractionNames (s.contract a t b).names
        (repeatedNames (s.contract a t b).names)) := by
  rw [dot, if_neg (not_not.mpr h.length_eq), h.forM_eq_pure, pure_bind, removeAxes_eq_pure hs,
    pure_bind, removeAxes_eq_pure ht, pure_bind]
  rfl

theorem dot_eq_pure_or_rejected (hs : s.Aligned) (ht : t.Aligned)
    (h : Matching s.dims t.dims a b) :
    dot s.dims a s.given t.dims b t.given = pure (s.contract a t b) ∨
      (dot s.dims a s.given t.dims b t.given).RejectedWith .duplicateNames := by
  rw [dot_eq_ite hs ht h]
  split
  · exact Or.inl rfl
  · exact Or.inr (Violation.rejectedWith_reject fun _ hv => absurd hv List.not_mem_nil)

/-- A contraction succeeds exactly if its axes match and no name is left on two axes. -/
theorem result_dot_eq_ok {r : NamedShape} (hs : s.Aligned) (ht : t.Aligned) :
    (dot s.dims a s.given t.dims b t.given).result = .ok r ↔
      Matching s.dims t.dims a b ∧ repeatedNames (s.contract a t b).names = [] ∧
        s.contract a t b = r := by
  constructor
  · intro h
    have hmatch := matching_of_dot h
    rw [dot_eq_ite hs ht hmatch] at h
    split at h
    · rename_i hnames
      exact ⟨hmatch, hnames, Outcome.result_pure_eq_ok.mp h⟩
    · exact absurd h (result_reject_ne_ok _ _)
  · rintro ⟨hmatch, hnames, rfl⟩
    rw [dot_eq_ite hs ht hmatch, if_pos hnames, Outcome.result_pure]

theorem dot_eq_pure_of_unnamed (hs : s.Aligned) (ht : t.Aligned)
    (h : Matching s.dims t.dims a b) (hsn : ∀ n ∈ s.names, n = none)
    (htn : ∀ n ∈ t.names, n = none) :
    dot s.dims a s.given t.dims b t.given = pure (s.contract a t b) := by
  rw [dot_eq_ite hs ht h]
  exact if_pos (repeatedNames_eq_nil (forall_mem_contract_names hsn htn))

end NamedShape

end TensorShape
