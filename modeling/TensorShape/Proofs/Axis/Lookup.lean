import TensorShape.Axis.Lookup
import TensorShape.Proofs.Axis.Erasure
import TensorShape.Proofs.Axis.Naming

/-! # Resolved axes

A reference means an axis by its index, counted from either end, or by its name, which is that of
the first axis that has it. It resolves to the axis that it means, and to nothing else. A list of
references to axes of a named shape resolves to distinct positions of the shape.
-/

namespace TensorShape

open Outcome

/-- The reference means the axis at the index, where the rank and the names are given. -/
inductive AxisRef.Means (rank : ℕ) (names : List AxisName) : AxisRef → ℤ → Prop
  | front {i : ℤ} : 0 ≤ i → i < rank → Means rank names (.index i) i
  | back {i : ℤ} : -(rank : ℤ) ≤ i → i < 0 → Means rank names (.index i) (rank + i)
  | name {s : String} {i : ℕ} : names[i]? = some (some s) →
    (∀ j < i, names[j]? ≠ some (some s)) → Means rank names (.name s) i

variable {s : NamedShape} {dims : Shape} {rank : ℕ} {names : List AxisName} {ref : AxisRef}
  {i j : ℤ}

theorem AxisName.isText_toValue_iff {n : String} {name : AxisName} :
    Value.isText n name.toValue = true ↔ name = some n :=
  Value.isText_iff.trans ⟨fun h => toValue_injective h, fun h => congrArg toValue h⟩

theorem findIdx?_isText_eq_some_iff {n : String} {k : ℕ} :
    (names.map AxisName.toValue).findIdx? (Value.isText n) = some k ↔
      names[k]? = some (some n) ∧ ∀ j < k, names[j]? ≠ some (some n) := by
  simp only [List.findIdx?_map, List.findIdx?_eq_some_iff_getElem, Function.comp_apply,
    AxisName.isText_toValue_iff, List.getElem?_eq_some_iff, ne_eq]
  constructor
  · rintro ⟨hk, hat, hbefore⟩
    exact ⟨⟨hk, hat⟩, fun j hj ⟨_, hname⟩ => hbefore j hj hname⟩
  · rintro ⟨⟨hk, hat⟩, hbefore⟩
    exact ⟨hk, hat, fun j hj hname => hbefore j hj ⟨Nat.lt_trans hj hk, hname⟩⟩

theorem findIdx?_isText_eq_none_iff {n : String} :
    (names.map AxisName.toValue).findIdx? (Value.isText n) = none ↔ some n ∉ names := by
  simp only [List.findIdx?_eq_none_iff, List.forall_mem_map, ← Bool.not_eq_true,
    AxisName.isText_toValue_iff]
  exact ⟨fun h hmem => h _ hmem rfl, fun h name hmem heq => h (heq ▸ hmem)⟩

namespace AxisRef

theorem Means.unique (hi : ref.Means rank names i) (hj : ref.Means rank names j) : i = j := by
  cases hi with
  | front h₀ _ =>
    cases hj with
    | front => rfl
    | back _ hneg => exact absurd hneg (Int.not_lt.mpr h₀)
  | back _ hneg =>
    cases hj with
    | front h₀ _ => exact absurd hneg (Int.not_lt.mpr h₀)
    | back => rfl
  | name hat hbefore =>
    cases hj with
    | name hat' hbefore' =>
      rcases Nat.lt_trichotomy _ _ with hlt | heq | hlt
      · exact absurd hat (hbefore' _ hlt)
      · exact congrArg Nat.cast heq
      · exact absurd hat' (hbefore _ hlt)

/-- Names that are not more than the axes mean positions of the shape, as indices do. -/
theorem Means.within (h : ref.Means rank names i) (hnames : names.length ≤ rank) :
    0 ≤ i ∧ i < rank := by
  cases h with
  | front h₀ hlt => exact ⟨h₀, hlt⟩
  | back hge hneg => omega
  | name hat _ =>
    obtain ⟨hlt, -⟩ := List.getElem?_eq_some_iff.mp hat
    omega

theorem Means.resolve_eq_pure (h : ref.Means dims.length names i) :
    ref.resolve dims (.ofNames (some names)) = pure i := by
  cases h with
  | front h₀ hlt => exact resolve_index h₀ hlt
  | back hge hneg => rw [resolve, if_neg (by omega), if_pos (by omega)]
  | name hat hbefore =>
    have hfind := findIdx?_isText_eq_some_iff.mpr ⟨hat, hbefore⟩
    simp only [resolve, GivenNames.required, GivenNames.ofNames, Option.map_some, pure_bind, hfind]

theorem means_of_resolve (h : (ref.resolve dims (.ofNames (some names))).result = .ok i) :
    ref.Means dims.length names i := by
  cases ref with
  | unnamed => exact absurd h (result_reject_ne_ok _ _)
  | other v => cases h
  | name n =>
    obtain ⟨given, hgiven, h⟩ := result_bind_eq_ok.mp h
    obtain rfl := result_pure_eq_ok.mp hgiven
    split at h
    · rename_i k hk
      obtain rfl := result_pure_eq_ok.mp h
      obtain ⟨hat, hbefore⟩ := findIdx?_isText_eq_some_iff.mp hk
      exact .name hat hbefore
    · exact absurd h (result_reject_ne_ok _ _)
  | index k =>
    rw [resolve] at h
    split at h
    · rename_i hfront
      obtain rfl := result_pure_eq_ok.mp h
      exact .front hfront.1 hfront.2
    · split at h
      · obtain rfl := result_pure_eq_ok.mp h
        exact .back (by omega) (by omega)
      · exact absurd h (result_reject_ne_ok _ _)

theorem result_resolve_eq_ok :
    (ref.resolve dims (.ofNames (some names))).result = .ok i ↔ ref.Means dims.length names i := by
  refine ⟨means_of_resolve, fun h => ?_⟩
  rw [h.resolve_eq_pure, result_pure]

end AxisRef

section Lists

open AxisRef

variable {refs : List AxisRef} {axes : List ℤ}

theorem mapM_resolve_eq_pure (h : List.Forall₂ (Means dims.length names) refs axes) :
    refs.mapM (resolve dims (.ofNames (some names))) = pure axes :=
  mapM_eq_pure_of_forall₂ (h.imp fun _ _ hmeans => hmeans.resolve_eq_pure)

theorem forall₂_means_of_mapM
    (h : (refs.mapM (resolve dims (.ofNames (some names)))).result = .ok axes) :
    List.Forall₂ (Means dims.length names) refs axes :=
  (forall₂_of_mapM h).imp fun _ _ => means_of_resolve

/-- References resolve to the axes that they mean, provided that these are distinct. -/
theorem result_resolveAxes_eq_ok :
    (resolveAxes dims refs (.ofNames (some names))).result = .ok axes ↔
      List.Forall₂ (Means dims.length names) refs axes ∧ axes.Nodup := by
  constructor
  · intro h
    obtain ⟨resolved, hresolved, h⟩ := result_bind_eq_ok.mp h
    split at h
    · obtain rfl := result_pure_eq_ok.mp h
      exact ⟨forall₂_means_of_mapM hresolved, ‹_›⟩
    · exact absurd h (result_reject_ne_ok _ _)
  · rintro ⟨hmeans, hnodup⟩
    rw [resolveAxes, mapM_resolve_eq_pure hmeans, pure_bind, if_pos hnodup, result_pure]

theorem within_of_forall₂_means (h : List.Forall₂ (Means rank names) refs axes)
    (hnames : names.length ≤ rank) : ∀ i ∈ axes, 0 ≤ i ∧ i < rank := by
  induction h with
  | nil => exact fun _ hmem => absurd hmem List.not_mem_nil
  | cons hi _ ih => exact List.forall_mem_cons.mpr ⟨hi.within hnames, ih⟩

theorem distinctAxes_of_resolveAxes (hs : s.Aligned)
    (h : (resolveAxes s.dims refs s.given).result = .ok axes) : DistinctAxes s.rank axes := by
  obtain ⟨hmeans, hnodup⟩ := result_resolveAxes_eq_ok.mp h
  have hwithin := within_of_forall₂_means hmeans (Nat.le_of_eq hs)
  exact ⟨hnodup, fun i hi => (hwithin i hi).1, fun i hi => (hwithin i hi).2⟩

end Lists

end TensorShape
