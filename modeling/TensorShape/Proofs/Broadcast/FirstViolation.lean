import TensorShape.Proofs.Broadcast.Composition
import TensorShape.Proofs.Diagnostic.Data

/-! # The first violation of a mapping

A mapping is accepted exactly if it obeys rules on all of its axes and all pairs of them. Where it
does not, the scan from axis to axis meets the first axis that breaks a rule on itself or on itself
and the axis before, and reports the first of these rules.
-/

namespace TensorShape

open Outcome

/-- The mapping gives every source axis a target. Targets do not descend, source axes that share one
have dimension one, and any other source axis has dimension one or that of its target. -/
structure IsMapping (source target : Shape) (axes : List ℤ) : Prop where
  length_eq : axes.length = source.length
  rank_le : source.length ≤ target.length
  within : ∀ axis ∈ axes, 0 ≤ axis ∧ axis < target.length
  ascending : axes.Pairwise (· ≤ ·)
  fits : ∀ (i : ℕ) axis dim, axes[i]? = some axis → source[i]? = some dim →
    dim = 1 ∨ entryAt? target axis = some dim
  shared : ∀ (i j : ℕ) axis dim dim', i ≠ j → axes[i]? = some axis → axes[j]? = some axis →
    source[i]? = some dim → source[j]? = some dim' → dim = 1 ∧ dim' = 1

/-- The code and the data for the source axis at an index, where it breaks a rule: the first one
that it breaks. Its target may lie outside the target shape, or before that of the axis before; it
may share that of the axis before though one of them has not dimension one; or its dimension may be
neither one nor that of its target. -/
inductive BreaksRule (source target : Shape) (axes : List ℤ) :
    ℕ → Code → List (String × Value) → Prop
  | outside {i : ℕ} {axis : ℤ} : axes[i]? = some axis → ¬ (0 ≤ axis ∧ axis < target.length) →
    BreaksRule source target axes i .axisOutOfRange
      [("axis", .int axis), ("rank", .nat target.length)]
  | unordered {i : ℕ} {previous axis : ℤ} : axes[i]? = some previous → axes[i + 1]? = some axis →
    0 ≤ axis ∧ axis < target.length → axis < previous →
    BreaksRule source target axes (i + 1) .unorderedAxes
      [("axes", .ints axes), ("axis", .int axis), ("previous_axis", .int previous)]
  | shared {i : ℕ} {axis previousDim dim : ℤ} : axes[i]? = some axis → axes[i + 1]? = some axis →
    0 ≤ axis ∧ axis < target.length → source[i]? = some previousDim →
    source[i + 1]? = some dim → dim ≠ 1 ∨ previousDim ≠ 1 →
    BreaksRule source target axes (i + 1) .broadcastIncompatible
      [("old_shape", .ints source), ("new_shape", .ints target), ("axes", .ints axes)]
  | unfit {i : ℕ} {axis dim : ℤ} : axes[i]? = some axis → source[i]? = some dim →
    0 ≤ axis ∧ axis < target.length →
    (∀ j previous, i = j + 1 → axes[j]? = some previous → previous ≤ axis) →
    dim ≠ 1 → entryAt? target axis ≠ some dim →
    BreaksRule source target axes i .broadcastIncompatible
      [("old_shape", .ints source), ("new_shape", .ints target), ("axes", .ints axes)]

variable {source target : Shape} {axes : List ℤ} {v : Violation}

section Acceptance

theorem forall_lands_iff (hlen : axes.length = source.length) :
    (∀ current ∈ axes.zip source, Lands target current) ↔
      (∀ axis ∈ axes, 0 ≤ axis ∧ axis < target.length) ∧
        ∀ (i : ℕ) axis dim, axes[i]? = some axis → source[i]? = some dim →
          dim = 1 ∨ entryAt? target axis = some dim := by
  constructor
  · intro h
    refine ⟨fun axis haxis => ?_, fun i axis dim haxis hdim => ?_⟩
    · rw [← List.map_fst_zip hlen.le] at haxis
      obtain ⟨current, hcurrent, rfl⟩ := List.mem_map.mp haxis
      exact (h current hcurrent).1
    · exact (h (axis, dim) (List.mem_of_getElem? (List.getElem?_zip_eq_some.mpr ⟨haxis, hdim⟩))).2
  · rintro ⟨hwithin, hfits⟩ current hcurrent
    obtain ⟨i, hi⟩ := List.mem_iff_getElem?.mp hcurrent
    obtain ⟨haxis, hdim⟩ := List.getElem?_zip_eq_some.mp hi
    exact ⟨hwithin _ (List.mem_of_getElem? haxis), hfits i _ _ haxis hdim⟩

theorem pairwise_follows_iff (hlen : axes.length = source.length) :
    (axes.zip source).Pairwise Follows ↔ axes.Pairwise (· ≤ ·) ∧
      ∀ (i j : ℕ) axis dim dim', i ≠ j → axes[i]? = some axis → axes[j]? = some axis →
        source[i]? = some dim → source[j]? = some dim' → dim = 1 ∧ dim' = 1 := by
  constructor
  · intro h
    refine ⟨?_, fun i j axis dim dim' hne haxis haxis' hdim hdim' => ?_⟩
    · rw [← List.map_fst_zip hlen.le, List.pairwise_map]
      exact h.imp fun hfollows => hfollows.1
    · have hi : (axes.zip source)[i]? = some (axis, dim) :=
        List.getElem?_zip_eq_some.mpr ⟨haxis, hdim⟩
      have hj : (axes.zip source)[j]? = some (axis, dim') :=
        List.getElem?_zip_eq_some.mpr ⟨haxis', hdim'⟩
      obtain ⟨hi, hxi⟩ := List.getElem?_eq_some_iff.mp hi
      obtain ⟨hj, hxj⟩ := List.getElem?_eq_some_iff.mp hj
      rcases Nat.lt_or_gt_of_ne hne with hlt | hlt
      · have hfollows := List.pairwise_iff_getElem.mp h i j hi hj hlt
        rw [hxi, hxj] at hfollows
        exact hfollows.2 rfl
      · have hfollows := List.pairwise_iff_getElem.mp h j i hj hi hlt
        rw [hxi, hxj] at hfollows
        exact (hfollows.2 rfl).symm
  · rintro ⟨hascending, hshared⟩
    rw [List.pairwise_iff_getElem]
    intro i j hi hj hlt
    obtain ⟨haxis, hdim⟩ := List.getElem?_zip_eq_some.mp (List.getElem?_eq_getElem hi)
    obtain ⟨haxis', hdim'⟩ := List.getElem?_zip_eq_some.mp (List.getElem?_eq_getElem hj)
    constructor
    · rw [← List.map_fst_zip hlen.le, List.pairwise_map] at hascending
      exact List.pairwise_iff_getElem.mp hascending i j hi hj hlt
    · intro hsame
      rw [hsame] at haxis'
      exact hshared i j _ _ _ hlt.ne haxis haxis' hdim hdim'

theorem checkMapping_eq_pure_iff : checkMapping source target axes = pure () ↔
    IsMapping source target axes := by
  have hresult : checkMapping source target axes = pure () ↔
      (checkMapping source target axes).result = .ok () :=
    ⟨fun h => congrArg Outcome.result h, checkMapping_eq_pure⟩
  rw [hresult, result_checkMapping_eq_ok]
  constructor
  · rintro ⟨hlen, hrank, hlands, hfollows⟩
    obtain ⟨hwithin, hfits⟩ := (forall_lands_iff hlen).mp hlands
    obtain ⟨hascending, hshared⟩ := (pairwise_follows_iff hlen).mp hfollows
    exact ⟨hlen, hrank, hwithin, hascending, hfits, hshared⟩
  · rintro ⟨hlen, hrank, hwithin, hascending, hfits, hshared⟩
    exact ⟨hlen, hrank, (forall_lands_iff hlen).mpr ⟨hwithin, hfits⟩,
      (pairwise_follows_iff hlen).mpr ⟨hascending, hshared⟩⟩

end Acceptance

section Scan

def axisBefore (previous : Option MappedAxis) (mapped : List MappedAxis) : ℕ → Option MappedAxis
  | 0 => previous
  | i + 1 => mapped[i]?

theorem axisBefore_cons (previous : Option MappedAxis) (current : MappedAxis)
    (rest : List MappedAxis) (i : ℕ) :
    axisBefore previous (current :: rest) (i + 1) = axisBefore (some current) rest i := by
  cases i <;> rfl

/-- The scan stops at the first axis with which anything is wrong. -/
theorem exists_of_firstViolation? {previous : Option MappedAxis} {mapped : List MappedAxis}
    (h : firstViolation? source target axes previous mapped = some v) :
    ∃ (i : ℕ) (hi : i < mapped.length),
      axisViolation? source target axes (axisBefore previous mapped i) mapped[i] = some v ∧
        ∀ (j : ℕ) (hj : j < i),
          axisViolation? source target axes (axisBefore previous mapped j) mapped[j] = none := by
  induction mapped generalizing previous with
  | nil => cases h
  | cons current rest ih =>
    rcases Option.or_eq_some_iff.mp h with hfirst | ⟨hnone, hrest⟩
    · exact ⟨0, Nat.succ_pos _, hfirst, fun j hj => absurd hj (Nat.not_lt_zero j)⟩
    · obtain ⟨i, hi, hviolation, hbefore⟩ := ih hrest
      refine ⟨i + 1, Nat.succ_lt_succ hi, ?_, fun j hj => ?_⟩
      · rw [axisBefore_cons]
        exact hviolation
      · cases j with
        | zero => exact hnone
        | succ j =>
          rw [axisBefore_cons]
          exact hbefore j (Nat.lt_of_succ_lt_succ hj)

variable {i j : ℕ} {p current : MappedAxis}

theorem breaksRule_of_orderViolation? (hp : (axes.zip source)[j]? = some p)
    (hcurrent : (axes.zip source)[j + 1]? = some current)
    (hwithin : 0 ≤ current.1 ∧ current.1 < target.length)
    (h : orderViolation? source target axes (some p) current = some v) :
    v.operation = .axisMapping ∧ BreaksRule source target axes (j + 1) v.code v.data := by
  obtain ⟨hpaxis, hpdim⟩ := List.getElem?_zip_eq_some.mp hp
  obtain ⟨haxis, hdim⟩ := List.getElem?_zip_eq_some.mp hcurrent
  simp only [orderViolation?] at h
  split at h
  · rename_i hlt
    cases h
    exact ⟨rfl, .unordered hpaxis haxis hwithin hlt⟩
  · split at h
    · rename_i hjoin
      cases h
      exact ⟨rfl, .shared (hjoin.1 ▸ hpaxis) haxis hwithin hpdim hdim hjoin.2⟩
    · cases h

theorem breaksRule_of_dimensionViolation? (hcurrent : (axes.zip source)[i]? = some current)
    (hwithin : 0 ≤ current.1 ∧ current.1 < target.length)
    (horder : ∀ p ∈ axisBefore none (axes.zip source) i, Follows p current)
    (h : dimensionViolation? source target axes current = some v) :
    v.operation = .axisMapping ∧ BreaksRule source target axes i v.code v.data := by
  obtain ⟨haxis, hdim⟩ := List.getElem?_zip_eq_some.mp hcurrent
  unfold dimensionViolation? at h
  split at h
  · rename_i hunfit
    cases h
    refine ⟨rfl, .unfit haxis hdim hwithin ?_ hunfit.1 hunfit.2⟩
    rintro j previous rfl hprevious
    obtain ⟨hlt, -⟩ := List.getElem?_eq_some_iff.mp hcurrent
    have hp := List.getElem?_eq_getElem (Nat.lt_of_succ_lt hlt)
    cases hprevious.symm.trans (List.getElem?_zip_eq_some.mp hp).1
    exact (horder _ hp).1
  · cases h

theorem breaksRule_of_axisViolation? (hcurrent : (axes.zip source)[i]? = some current)
    (h : axisViolation? source target axes (axisBefore none (axes.zip source) i) current = some v) :
    v.operation = .axisMapping ∧ BreaksRule source target axes i v.code v.data := by
  unfold axisViolation? at h
  split at h
  · rename_i houtside
    cases h
    exact ⟨rfl, .outside (List.getElem?_zip_eq_some.mp hcurrent).1 (by omega)⟩
  · rename_i hinside
    have hwithin : 0 ≤ current.1 ∧ current.1 < target.length := by omega
    rcases Option.or_eq_some_iff.mp h with horder | ⟨horder, hfit⟩
    · cases i with
      | zero => cases horder
      | succ j =>
        cases hp : (axes.zip source)[j]? with
        | none =>
          rw [axisBefore, hp] at horder
          cases horder
        | some p =>
          rw [axisBefore, hp] at horder
          exact breaksRule_of_orderViolation? hp hcurrent hwithin horder
    · refine breaksRule_of_dimensionViolation? hcurrent hwithin (fun p hp => ?_) hfit
      rw [Option.mem_def.mp hp] at horder
      exact orderViolation?_eq_none_iff.mp horder

theorem not_breaksRule_of_axisViolation? (hcurrent : (axes.zip source)[i]? = some current)
    (h : axisViolation? source target axes (axisBefore none (axes.zip source) i) current = none)
    (code : Code) (data : List (String × Value)) :
    ¬ BreaksRule source target axes i code data := by
  obtain ⟨⟨hwithin, hfit⟩, horder⟩ := axisViolation?_eq_none_iff.mp h
  obtain ⟨haxis, hdim⟩ := List.getElem?_zip_eq_some.mp hcurrent
  intro hbreaks
  cases hbreaks with
  | outside haxis' houtside =>
    cases haxis.symm.trans haxis'
    exact houtside hwithin
  | unordered hprevious haxis' _ hlt =>
    cases haxis.symm.trans haxis'
    obtain ⟨hi, -⟩ := List.getElem?_eq_some_iff.mp hcurrent
    have hp := List.getElem?_eq_getElem (Nat.lt_of_succ_lt hi)
    cases hprevious.symm.trans (List.getElem?_zip_eq_some.mp hp).1
    exact absurd (horder _ hp).1 (Int.not_le.mpr hlt)
  | @shared j _ previousDim _ hprevious haxis' _ hpreviousDim hdim' hunit =>
    cases haxis.symm.trans haxis'
    cases hdim.symm.trans hdim'
    have hp : (axes.zip source)[j]? = some (current.1, previousDim) :=
      List.getElem?_zip_eq_some.mpr ⟨hprevious, hpreviousDim⟩
    have hone := (horder _ hp).2 rfl
    exact hunit.elim (fun hne => hne hone.2) fun hne => hne hone.1
  | unfit haxis' hdim' _ _ hne hunfit =>
    cases haxis.symm.trans haxis'
    cases hdim.symm.trans hdim'
    exact hfit.elim hne hunfit

end Scan

theorem rejectedAs_of_firstViolation? (hlen : axes.length = source.length)
    (hrank : source.length ≤ target.length)
    (h : firstViolation? source target axes none (axes.zip source) = some v)
    (hoperation : v.operation = .axisMapping) :
    (checkMapping source target axes).RejectedAs .axisMapping v.code v.data := by
  rw [checkMapping, if_neg (not_not.mpr hlen), if_neg (Nat.not_lt.mpr hrank), h, ← hoperation]
  refine Violation.rejectedAs_reject fun given hgiven => ?_
  rw [(mappingViolation_of_firstViolation? h).givenValues_eq] at hgiven
  exact absurd hgiven List.not_mem_nil

/-- A mapping with a target for each source axis that is not accepted is reported for the first axis
that breaks a rule. -/
theorem exists_first_breaksRule (hlen : axes.length = source.length)
    (hrank : source.length ≤ target.length) (h : ¬ IsMapping source target axes) :
    ∃ i code data, BreaksRule source target axes i code data ∧
      (∀ j < i, ∀ code' data', ¬ BreaksRule source target axes j code' data') ∧
        (checkMapping source target axes).RejectedAs .axisMapping code data := by
  rw [← checkMapping_eq_pure_iff] at h
  cases hfirst : firstViolation? source target axes none (axes.zip source) with
  | none =>
    rw [checkMapping, if_neg (not_not.mpr hlen), if_neg (Nat.not_lt.mpr hrank), hfirst] at h
    exact absurd rfl h
  | some v =>
    obtain ⟨i, hi, hviolation, hbefore⟩ := exists_of_firstViolation? hfirst
    obtain ⟨hoperation, hbreaks⟩ :=
      breaksRule_of_axisViolation? (List.getElem?_eq_getElem hi) hviolation
    exact ⟨i, v.code, v.data, hbreaks,
      fun j hj => not_breaksRule_of_axisViolation? (List.getElem?_eq_getElem _) (hbefore j hj),
      rejectedAs_of_firstViolation? hlen hrank hfirst hoperation⟩

/-- A mapping is accepted exactly if it obeys the rules on all axes and all pairs of axes. It is
rejected first for its length, then for a rank that exceeds that of the target, and then for the
first axis that breaks a rule, with the code and data of the first rule that this axis breaks. -/
theorem checkMapping_accepts_or_reports_first (source target : Shape) (axes : List ℤ) :
    let x := checkMapping source target axes
    (x = pure () ↔ IsMapping source target axes) ∧
    (axes.length ≠ source.length → x.RejectedAs .axisMapping .rankMismatch
      [("axes", .ints axes), ("rank", .nat source.length)]) ∧
    (axes.length = source.length → target.length < source.length →
      x.RejectedAs .axisMapping .broadcastIncompatible
        [("old_shape", .ints source), ("new_shape", .ints target), ("axes", .ints axes)]) ∧
    (axes.length = source.length → source.length ≤ target.length →
      ¬ IsMapping source target axes →
        ∃ i code data, BreaksRule source target axes i code data ∧
          (∀ j < i, ∀ code' data', ¬ BreaksRule source target axes j code' data') ∧
            x.RejectedAs .axisMapping code data) := by
  intro x
  refine ⟨checkMapping_eq_pure_iff, fun hlen => ?_, fun hlen hrank => ?_,
    exists_first_breaksRule⟩
  · simp only [x, checkMapping]
    rw [if_pos hlen]
    exact Violation.rejectedAs_reject fun _ hm => absurd hm List.not_mem_nil
  · simp only [x, checkMapping]
    rw [if_neg (not_not.mpr hlen), if_pos hrank]
    exact Violation.rejectedAs_reject fun _ hm => absurd hm List.not_mem_nil

/-- Too many targets, and a target shape of too small a rank. In the last mapping the first axis
does not fit its target; that the second one comes before it and the third one lies outside is not
reported. -/
theorem checkMapping_accepts_or_reports_first_unfit_before_unordered :
    [0, 0].length ≠ ([4] : Shape).length ∧
      (checkMapping [4] [4] [0, 0]).RejectedAs .axisMapping .rankMismatch
        [("axes", .ints [0, 0]), ("rank", .nat 1)] ∧
      ([1] : Shape).length < ([1, 1] : Shape).length ∧
      (checkMapping [1, 1] [1] [0, 0]).RejectedAs .axisMapping .broadcastIncompatible
        [("old_shape", .ints [1, 1]), ("new_shape", .ints [1]), ("axes", .ints [0, 0])] ∧
      [3, 1, 9].length = ([4, 1, 2] : Shape).length ∧
      ([4, 1, 2] : Shape).length ≤ ([2, 3, 5, 7] : Shape).length ∧
      ¬ IsMapping [4, 1, 2] [2, 3, 5, 7] [3, 1, 9] ∧
      (checkMapping [4, 1, 2] [2, 3, 5, 7] [3, 1, 9]).RejectedAs .axisMapping
        .broadcastIncompatible [("old_shape", .ints [4, 1, 2]), ("new_shape", .ints [2, 3, 5, 7]),
          ("axes", .ints [3, 1, 9])] := by
  have hnot : ¬ IsMapping [4, 1, 2] [2, 3, 5, 7] [3, 1, 9] := fun h =>
    absurd (h.within 9 (by decide)) (by decide)
  obtain ⟨-, hcount, -⟩ := checkMapping_accepts_or_reports_first [4] [4] [0, 0]
  obtain ⟨-, -, hrank, -⟩ := checkMapping_accepts_or_reports_first [1, 1] [1] [0, 0]
  obtain ⟨-, -, -, hfirst⟩ :=
    checkMapping_accepts_or_reports_first [4, 1, 2] [2, 3, 5, 7] [3, 1, 9]
  obtain ⟨i, code, data, hbreaks, hleast, hreject⟩ := hfirst rfl (by decide) hnot
  have haxis : [(3 : ℤ), 1, 9][0]? = some 3 := rfl
  have hdim : ([4, 1, 2] : Shape)[0]? = some 4 := rfl
  have hunfit : BreaksRule [4, 1, 2] [2, 3, 5, 7] [3, 1, 9] 0 .broadcastIncompatible _ :=
    .unfit haxis hdim (by decide) (fun j _ hj => nomatch hj) (by decide) (by decide)
  obtain rfl : i = 0 := Nat.eq_zero_of_not_pos fun hpos => hleast 0 hpos _ _ hunfit
  refine ⟨by decide, hcount (by decide), by decide, hrank rfl (by decide), rfl, by decide, hnot, ?_⟩
  cases hbreaks with
  | outside haxis houtside =>
    cases haxis
    exact absurd (by decide) houtside
  | unfit => exact hreject

end TensorShape
