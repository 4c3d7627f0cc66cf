import TensorShape.Proofs.Permutation.Composition
import TensorShape.Proofs.UnitRemoval

/-! # Removing axes before or after a permutation

Axes can be removed from a permuted shape, at the positions to which the permutation took them, or
before the permutation, which is then that of the remaining axes. Each of these is listed at the
index that it has once the others are gone. Both ways lead to the same shape, and where only unit
axes are removed, one is rejected exactly if the other one is.
-/

namespace TensorShape

section Positions

def positionsOf (axes listed : List ℤ) : List ℤ :=
  (listed.zipIdx.filter fun entry => entry.1 ∈ axes).map fun entry => (entry.2 : ℤ)

variable {axes listed : List ℤ}

theorem natCast_mem_positionsOf_iff {i : ℤ} {n : ℕ} (h : listed[n]? = some i) :
    (n : ℤ) ∈ positionsOf axes listed ↔ i ∈ axes := by
  simp only [positionsOf, List.mem_map, List.mem_filter, decide_eq_true_eq, Nat.cast_inj]
  constructor
  · rintro ⟨⟨j, m⟩, ⟨hmem, hj⟩, rfl⟩
    have hentry := List.mem_zipIdx_iff_getElem?.mp hmem
    exact Option.some.inj (hentry.symm.trans h) ▸ hj
  · exact fun hi => ⟨(i, n), ⟨List.mk_mem_zipIdx_iff_getElem?.mpr h, hi⟩, rfl⟩

theorem selectAxes_positionsOf (axes listed : List ℤ) :
    selectAxes (positionsOf axes listed) listed = listed.filter fun axis => axis ∈ axes := by
  rw [← map_fst_filter_zipIdx, selectAxes, positionsOf, List.filterMap_map,
    ← List.filterMap_eq_map]
  refine List.filterMap_congr fun entry hentry => ?_
  exact List.mem_zipIdx_iff_getElem?.mp (List.mem_of_mem_filter hentry)

theorem eraseAxes_positionsOf (axes listed : List ℤ) :
    eraseAxes (positionsOf axes listed) listed = listed.filter fun axis => axis ∉ axes :=
  eraseAxes_eq_filter_of_iff fun _ _ h => not_congr (natCast_mem_positionsOf_iff h)

end Positions

section Remaining

/-- The permutation of the axes that remain, each of them at its index after the others are gone. -/
def permutationAfter (gone permutation : List ℤ) : List ℤ :=
  (permutation.filter fun axis => axis ∉ gone).map (indexAfter gone)

variable {s : NamedShape} {permutation gone : List ℤ} (hp : permutation.Perm (allAxes s.rank))
  (hgone : DistinctAxes s.rank gone)

include hp hgone

theorem sourceAxes_permutationAfter :
    SourceAxes (s.erase gone).rank (permutationAfter gone permutation) where
  length_eq := by
    calc (permutationAfter gone permutation).length
      _ = (permutation.filter fun axis => axis ∉ gone).length := List.length_map _
      _ = ((allAxes s.rank).filter fun axis => axis ∉ gone).length := (hp.filter _).length_eq
      _ = (eraseAxes gone (allAxes s.rank)).length := by rw [eraseAxes_allAxes]
      _ = (s.erase gone).rank := length_eraseAxes_congr (length_allAxes s.rank) gone
  within := by
    rw [permutationAfter, List.forall_mem_map]
    intro i hi
    obtain ⟨hmem, hkept⟩ := List.mem_filter.mp hi
    obtain ⟨hnonneg, hlt⟩ := (sourceAxes_of_perm hp).within i hmem
    have hkept : i ∉ gone := of_decide_eq_true hkept
    exact ⟨indexAfter_nonneg hgone.nodup hgone.nonneg hnonneg,
      indexAfter_lt_length hgone.nodup hgone.nonneg hnonneg hlt hkept⟩

theorem eraseAxes_positionsOf_selectAxes {α : Type} {xs : List α} (hlen : xs.length = s.rank) :
    eraseAxes (positionsOf gone permutation) (selectAxes permutation xs) =
      selectAxes (permutationAfter gone permutation) (eraseAxes gone xs) := by
  have hwithin : ∀ i ∈ permutation, 0 ≤ i ∧ i < xs.length :=
    hlen.symm ▸ (sourceAxes_of_perm hp).within
  have hremaining : ∀ i ∈ permutation.filter fun axis => axis ∉ gone, 0 ≤ i ∧ i < xs.length :=
    fun i hi => hwithin i (List.mem_of_mem_filter hi)
  have hkept : ∀ i ∈ permutation.filter fun axis => axis ∉ gone, i ∉ gone :=
    fun i hi => of_decide_eq_true (List.mem_filter.mp hi).2
  rw [eraseAxes_selectAxes hwithin, eraseAxes_positionsOf, permutationAfter,
    selectAxes_map_indexAfter (hlen.symm ▸ hgone) hremaining hkept]

theorem erase_select_eq_select_erase (hs : s.Aligned) :
    (s.select permutation).erase (positionsOf gone permutation) =
      (s.erase gone).select (permutationAfter gone permutation) :=
  congrArg₂ LabelledShape.mk (eraseAxes_positionsOf_selectAxes hp hgone rfl)
    (eraseAxes_positionsOf_selectAxes hp hgone hs)

theorem allUnit_positionsOf_iff :
    AllUnit (s.select permutation).dims (positionsOf gone permutation) ↔ AllUnit s.dims gone := by
  have hwithin : ∀ i ∈ permutation, 0 ≤ i ∧ i < s.dims.length := (sourceAxes_of_perm hp).within
  have hmem : ∀ i, i ∈ (permutation.filter fun axis => axis ∈ gone) ↔ i ∈ gone := by
    intro i
    rw [List.mem_filter, decide_eq_true_eq, hp.mem_iff, mem_allAxes]
    exact and_iff_right_of_imp (hgone.within i)
  rw [AllUnit, LabelledShape.select, selectAxes_selectAxes hwithin, selectAxes_positionsOf]
  exact allUnit_congr hmem

theorem permute_erase (hs : s.Aligned) :
    permute (s.erase gone).dims (permutationAfter gone permutation) (s.erase gone).given =
      pure ((s.erase gone).select (permutationAfter gone permutation)) :=
  (sourceAxes_permutationAfter hp hgone).permute_eq_pure (LabelledShape.aligned_erase hs gone)

end Remaining

def permuteFirst (remove : Shape → List ℤ → GivenNames → Outcome NamedShape) (s : NamedShape)
    (permutation axes : List ℤ) : Outcome NamedShape := do
  let t ← permute s.dims permutation s.given
  remove t.dims axes t.given

def removeFirst (remove : Shape → List ℤ → GivenNames → Outcome NamedShape) (s : NamedShape)
    (axes permutation : List ℤ) : Outcome NamedShape := do
  let t ← remove s.dims axes s.given
  permute t.dims permutation t.given

/-- It makes no difference whether axes are removed before a permutation or, at the positions to
which it took them, after it. For unit axes, both ways answer the same shape or are rejected for the
dimension of an axis; in no case is the permutation of the remaining axes what fails. -/
theorem removal_commutes_with_permutation {s : NamedShape} {permutation axes : List ℤ}
    (hs : s.Aligned) (hp : permutation.Perm (allAxes s.rank)) (ha : DistinctAxes s.rank axes) :
    let positions := positionsOf axes permutation
    let remaining := permutationAfter axes permutation
    (∃ r, permuteFirst removeAxes s permutation positions = pure r ∧
      removeFirst removeAxes s axes remaining = pure r) ∧
    ((∃ r, permuteFirst removeUnitAxes s permutation positions = pure r ∧
        removeFirst removeUnitAxes s axes remaining = pure r) ∨
      (permuteFirst removeUnitAxes s permutation positions).RejectedWith .squeezeNonUnitDim ∧
        (removeFirst removeUnitAxes s axes remaining).RejectedWith .squeezeNonUnitDim) := by
  intro positions remaining
  have hsource := sourceAxes_of_perm hp
  have haligned := LabelledShape.aligned_select hs hsource.within
  have hpermuted := hsource.permute_eq_pure hs
  have hsame := erase_select_eq_select_erase hp ha hs
  constructor
  · refine ⟨(s.erase axes).select remaining, ?_, ?_⟩
    · rw [permuteFirst, hpermuted, pure_bind, removeAxes_eq_pure haligned, hsame]
    · rw [removeFirst, removeAxes_eq_pure hs, pure_bind, permute_erase hp ha hs]
  · by_cases hunit : AllUnit s.dims axes
    · have hunit' := (allUnit_positionsOf_iff hp ha).mpr hunit
      refine Or.inl ⟨(s.erase axes).select remaining, ?_, ?_⟩
      · rw [permuteFirst, hpermuted, pure_bind, removeUnitAxes_eq_pure haligned hunit', hsame]
      · rw [removeFirst, removeUnitAxes_eq_pure hs hunit, pure_bind, permute_erase hp ha hs]
    · have hunit' := mt (allUnit_positionsOf_iff hp ha).mp hunit
      refine Or.inr ⟨?_, (rejectedWith_removeUnitAxes hs hunit).bind _⟩
      rw [permuteFirst, hpermuted, pure_bind]
      exact rejectedWith_removeUnitAxes haligned hunit'

/-- Two of the four axes are removed. The permutation takes them to the front and to the end, and
the other two change places. -/
theorem removal_commutes_with_permutation_unit :
    let s : NamedShape := ⟨[2, 1, 3, 1], [some "row", none, some "column", none]⟩
    let r : NamedShape := ⟨[3, 2], [some "column", some "row"]⟩
    s.Aligned ∧ [3, 2, 0, 1].Perm (allAxes s.rank) ∧ DistinctAxes s.rank [1, 3] ∧
      positionsOf [1, 3] [3, 2, 0, 1] = [0, 3] ∧ permutationAfter [1, 3] [3, 2, 0, 1] = [1, 0] ∧
      permuteFirst removeUnitAxes s [3, 2, 0, 1] [0, 3] = pure r ∧
      removeFirst removeUnitAxes s [1, 3] [1, 0] = pure r := by
  intro s r
  have hs : s.Aligned := rfl
  have hperm : [3, 2, 0, 1].Perm (allAxes s.rank) := by decide
  have hdistinct : DistinctAxes s.rank [1, 3] := by decide
  have hpositions : positionsOf [1, 3] [3, 2, 0, 1] = [0, 3] := by decide
  have hremaining : permutationAfter [1, 3] [3, 2, 0, 1] = [1, 0] := by decide
  have hok : (permuteFirst removeUnitAxes s [3, 2, 0, 1] [0, 3]).result = .ok r :=
    Outcome.result_eq_ok_of_answer? (by decide +kernel)
  obtain ⟨-, hcommutes⟩ := removal_commutes_with_permutation hs hperm hdistinct
  rw [hpositions, hremaining] at hcommutes
  obtain ⟨r', hpermuted, hremoved⟩ | ⟨hrejected, -⟩ := hcommutes
  · obtain rfl : r' = r := Outcome.result_pure_eq_ok.mp (hpermuted ▸ hok)
    exact ⟨hs, hperm, hdistinct, hpositions, hremaining, hpermuted, hremoved⟩
  · exact absurd ⟨r, hok⟩ hrejected.not_succeeds

end TensorShape
