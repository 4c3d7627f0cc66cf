import Mathlib.Data.List.Basic
import TensorShape.NamedShape
import TensorShape.Proofs.Sequencing

/-! # Assigned and merged names

Assigned names are as many as the axes. Merging fails exactly for two different names, and
otherwise gives the first name that is there.
-/

namespace TensorShape

def LabelledShape.given (s : NamedShape) : GivenNames := .ofNames (some s.names)

@[simp] theorem LabelledShape.Aligned.assign_given {s : NamedShape} (h : s.Aligned) :
    s.given.assign s.dims = pure s.names :=
  GivenNames.assign_ofNames_some h

theorem AxisName.toValue_of_ofValue? {v : Value} {n : AxisName} (h : ofValue? v = some n) :
    n.toValue = v := by
  cases v <;> simp only [ofValue?, Option.some.injEq, reduceCtorEq] at h <;> subst h <;> rfl

theorem AxisName.map_toValue_of_mapM {given : List Value} {names : List AxisName}
    (h : given.mapM ofValue? = some names) : names.map toValue = given := by
  induction given generalizing names with
  | nil =>
    rw [List.mapM_nil] at h
    obtain rfl := Option.some.inj h
    rfl
  | cons v given ih =>
    simp only [List.mapM_cons, Option.bind_eq_bind, Option.bind_eq_some_iff, Option.pure_def,
      Option.some.injEq] at h
    obtain ⟨n, hn, rest, hrest, rfl⟩ := h
    rw [List.map_cons, toValue_of_ofValue? hn, ih hrest]

theorem GivenNames.result_assign_eq_ok {names : GivenNames} {dims : Shape}
    {assigned : List AxisName} :
    (names.assign dims).result = .ok assigned ↔
      (names = none ∧ assigned = List.replicate dims.length none) ∨
        (names = ofNames (some assigned) ∧ assigned.length = dims.length) := by
  constructor
  · intro h
    cases names with
    | none => exact Or.inl ⟨rfl, (Outcome.result_pure_eq_ok.mp h).symm⟩
    | some given =>
      right
      simp only [assign] at h
      split at h
      · exact absurd h (result_reject_ne_ok _ _)
      · rename_i hlen
        split at h
        · rename_i found hm
          obtain rfl := Outcome.result_pure_eq_ok.mp h
          have hg := AxisName.map_toValue_of_mapM hm
          refine ⟨congrArg some hg.symm, ?_⟩
          rw [← not_not.mp hlen, ← hg, List.length_map]
        · cases h
  · rintro (⟨rfl, rfl⟩ | ⟨rfl, h⟩)
    · rfl
    · rw [assign_ofNames_some h, Outcome.result_pure]

theorem GivenNames.assign_eq_pure {names : GivenNames} {dims : Shape} {assigned : List AxisName}
    (h : (names.assign dims).result = .ok assigned) : names.assign dims = pure assigned := by
  rcases result_assign_eq_ok.mp h with ⟨rfl, rfl⟩ | ⟨rfl, hlen⟩
  · rfl
  · exact assign_ofNames_some hlen

theorem GivenNames.length_of_assign {names : GivenNames} {dims : Shape}
    {assigned : List AxisName} (h : (names.assign dims).result = .ok assigned) :
    assigned.length = dims.length := by
  rcases result_assign_eq_ok.mp h with ⟨-, rfl⟩ | ⟨-, h⟩
  · exact List.length_replicate
  · exact h

theorem GivenNames.assign_ofNames_of_length_ne {names : List AxisName} {dims : Shape}
    (h : names.length ≠ dims.length) :
    (ofNames (some names)).assign dims =
      reject (.nameCount dims.length (names.map AxisName.toValue)) := by
  simp only [ofNames, Option.map_some, assign, List.length_map, if_pos h]

theorem GivenNames.succeeds_assign_ofNames {names : Option (List AxisName)} {dims : Shape} :
    ((ofNames names).assign dims).Succeeds ↔ ∀ ns ∈ names, ns.length = dims.length := by
  cases names with
  | none =>
    exact iff_of_true (Outcome.succeeds_pure _) fun _ hns => absurd hns (Option.not_mem_none _)
  | some ns =>
    simp only [Option.mem_some_iff, forall_eq']
    constructor
    · rintro ⟨assigned, h⟩
      by_contra hne
      rw [assign_ofNames_of_length_ne hne] at h
      exact result_reject_ne_ok _ _ h
    · intro h
      rw [assign_ofNames_some h]
      exact Outcome.succeeds_pure ns

namespace AxisName

def Conflicting (names : AxisName × AxisName) : Prop :=
  names.1 ≠ none ∧ names.2 ≠ none ∧ names.1 ≠ names.2

theorem not_conflicting_none : ¬ Conflicting (none, none) := fun h => h.1 rfl

theorem eq_of_not_conflicting {s t : String} (h : ¬ Conflicting (some s, some t)) : s = t :=
  by_contra fun hne =>
    h ⟨Option.some_ne_none s, Option.some_ne_none t, fun heq => hne (Option.some.inj heq)⟩

theorem merge_eq_pure {m n : AxisName} (h : ¬ Conflicting (m, n)) : m.merge n = pure (m.or n) := by
  cases m with
  | none => rfl
  | some s =>
    cases n with
    | none => rfl
    | some t => rw [eq_of_not_conflicting h, merge_self, Option.or_self]

theorem not_conflicting_of_merge {m n k : AxisName} (h : (m.merge n).result = .ok k) :
    ¬ Conflicting (m, n) := by
  rintro ⟨hm, hn, hne⟩
  obtain ⟨s, rfl⟩ := Option.ne_none_iff_exists'.mp hm
  obtain ⟨t, rfl⟩ := Option.ne_none_iff_exists'.mp hn
  have hst : s ≠ t := fun he => hne (congrArg some he)
  rw [merge, if_neg hst] at h
  exact result_reject_ne_ok _ _ h

end AxisName

end TensorShape
