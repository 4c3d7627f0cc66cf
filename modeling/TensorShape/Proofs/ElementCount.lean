import Mathlib.Algebra.BigOperators.Group.Multiset.Basic
import TensorShape.Proofs.Attachment
import TensorShape.Proofs.Axis.Rearrangement
import TensorShape.Proofs.Broadcast.Target
import TensorShape.Proofs.UnitRemoval

/-! # Numbers of elements

A tensor has as many elements as the product of its dimensions. The operations that drop or move
axes account for all of them: what is left times what was dropped is what there was. Two shapes that
are broadcast against each other have a number of elements that both of theirs divide, and that
divides the product of these.
-/

namespace TensorShape

open Outcome

def elementCount (dims : Shape) : ℤ := dims.prod

variable {dims lhs rhs : Shape} {names lhsNames rhsNames : GivenNames} {axes : List ℤ}
  {r : NamedShape}

theorem elementCount_append (dims more : Shape) :
    elementCount (dims ++ more) = elementCount dims * elementCount more :=
  List.prod_append

theorem elementCount_of_perm {more : Shape} (h : dims.Perm more) :
    elementCount dims = elementCount more :=
  h.prod_eq

theorem elementCount_of_forall_eq_one (h : ∀ d ∈ dims, d = 1) : elementCount dims = 1 :=
  List.prod_eq_one h

/-- The elements of a shape are counted by the axes that are left and those that are not. -/
theorem elementCount_eraseAxes (axes : List ℤ) (dims : Shape) :
    elementCount dims =
      elementCount (eraseAxes axes dims) * elementCount (selectAxes axes.dedup dims) := by
  rw [← elementCount_append, elementCount_of_perm (eraseAxes_append_selectAxes_perm axes dims)]

section Removal

theorem elementCount_of_removeAxes (h : (removeAxes dims axes names).result = .ok r) :
    elementCount dims = elementCount r.dims * elementCount (selectAxes axes.dedup dims) := by
  obtain ⟨-, rfl⟩ := eq_erase_of_removeAxes h
  exact elementCount_eraseAxes axes dims

theorem allUnit_of_removeUnitAxes (h : (removeUnitAxes dims axes names).result = .ok r) :
    AllUnit dims axes.dedup := by
  rw [removeUnitAxes_eq] at h
  obtain ⟨given, -, h⟩ := result_bind_eq_ok.mp h
  split at h
  · exact absurd h (result_reject_ne_ok _ _)
  · rename_i hnone
    exact (allUnit_congr fun _ => List.mem_dedup).mpr (nonUnit?_eq_none_iff.mp hnone)

theorem elementCount_of_removeUnitAxes (h : (removeUnitAxes dims axes names).result = .ok r) :
    elementCount r.dims = elementCount dims := by
  have hone := elementCount_of_forall_eq_one (allUnit_of_removeUnitAxes h)
  obtain ⟨-, rfl⟩ := eq_erase_of_removeUnitAxes h
  rw [elementCount_eraseAxes axes dims, hone, mul_one]
  rfl

end Removal

section Permutation

variable {permutation : List ℤ}

theorem elementCount_of_permute (hnodup : permutation.Nodup)
    (h : (permute dims permutation names).result = .ok r) :
    elementCount r.dims = elementCount dims := by
  have hlen := length_of_permute h
  obtain ⟨-, hwithin, rfl⟩ := eq_select_of_permute h
  have haxes : DistinctAxes dims.length permutation :=
    ⟨hnodup, fun i hi => (hwithin i hi).1, fun i hi => (hwithin i hi).2⟩
  exact elementCount_of_perm (selectAxes_perm haxes hlen)

end Permutation

section Contraction

variable {lhsAxes rhsAxes : List ℤ}

theorem selectAxes_eq_of_map_entry {a : List ℤ} {common : Shape} (ha : ∀ i ∈ a, 0 ≤ i)
    (h : a.map (entryFromEitherEnd? dims) = common.map some) : selectAxes a dims = common := by
  have hentry : a.map (entryAt? dims) = common.map some := by
    rw [← h]
    exact List.map_congr_left fun i hi => (entryFromEitherEnd?_of_nonneg (ha i hi)).symm
  have hselect : selectAxes a dims = (a.map (entryAt? dims)).filterMap id := by
    rw [List.filterMap_map]
    rfl
  rw [hselect, hentry, List.filterMap_map]
  exact List.filterMap_some

theorem Matching.selectAxes_eq (h : Matching lhs rhs lhsAxes rhsAxes) (hl : ∀ i ∈ lhsAxes, 0 ≤ i)
    (hr : ∀ i ∈ rhsAxes, 0 ≤ i) : selectAxes lhsAxes lhs = selectAxes rhsAxes rhs := by
  obtain ⟨common, hlhs, hrhs⟩ := h
  rw [selectAxes_eq_of_map_entry hl hlhs, selectAxes_eq_of_map_entry hr hrhs]

theorem elementCount_of_dot (hl : DistinctAxes lhs.length lhsAxes)
    (hr : DistinctAxes rhs.length rhsAxes)
    (h : (dot lhs lhsAxes lhsNames rhs rhsAxes rhsNames).result = .ok r) :
    elementCount (selectAxes rhsAxes rhs) = elementCount (selectAxes lhsAxes lhs) ∧
      elementCount lhs * elementCount rhs = elementCount r.dims *
        elementCount (selectAxes lhsAxes lhs) * elementCount (selectAxes lhsAxes lhs) := by
  have hsame := (matching_of_dot h).selectAxes_eq hl.nonneg hr.nonneg
  obtain ⟨-, -, rfl⟩ := eq_contract_of_dot h
  refine ⟨congrArg elementCount hsame.symm, ?_⟩
  have hlhs := elementCount_eraseAxes lhsAxes lhs
  have hrhs := elementCount_eraseAxes rhsAxes rhs
  rw [hl.nodup.dedup] at hlhs
  rw [hr.nodup.dedup, ← hsame] at hrhs
  have hleft : elementCount ((lhsNames.on lhs).contract lhsAxes (rhsNames.on rhs) rhsAxes).dims =
      elementCount (eraseAxes lhsAxes lhs) * elementCount (eraseAxes rhsAxes rhs) :=
    elementCount_append _ _
  rw [hleft, hlhs, hrhs]
  ring

end Contraction

section Broadcast

variable {s t : NamedShape}

theorem elementCount_leftpad (n : ℕ) (dims : Shape) :
    elementCount (dims.leftpad n 1) = elementCount dims := by
  simp [elementCount, List.leftpad]

theorem map_fst_align {α : Type} (fill : α) (xs ys : List α) :
    (align fill xs ys).map Prod.fst = xs.leftpad (max xs.length ys.length) fill :=
  List.map_fst_zip (length_leftpad_max.1.trans length_leftpad_max.2.symm).le

theorem map_snd_align {α : Type} (fill : α) (xs ys : List α) :
    (align fill xs ys).map Prod.snd = ys.leftpad (max xs.length ys.length) fill :=
  List.map_snd_zip (length_leftpad_max.2.trans length_leftpad_max.1.symm).le

theorem prod_map_dvd_prod_map {α : Type} {f g : α → ℤ} {xs : List α} (h : ∀ x ∈ xs, f x ∣ g x) :
    (xs.map f).prod ∣ (xs.map g).prod := by
  have hdvd := Multiset.prod_dvd_prod_of_dvd (S := (xs : Multiset α)) f g h
  simpa using hdvd

/-- Positive dimensions that do not clash divide the larger one, which divides their product. -/
theorem dvd_max_of_not_clashing {a b : ℤ} (ha : 1 ≤ a) (hb : 1 ≤ b) (h : ¬ Clashing (a, b)) :
    a ∣ max a b ∧ b ∣ max a b ∧ max a b ∣ a * b := by
  have hcases : a = 1 ∨ b = 1 ∨ a = b := by
    unfold Clashing at h
    tauto
  rcases hcases with rfl | rfl | rfl
  · rw [max_eq_right hb]
    exact ⟨one_dvd b, dvd_rfl, dvd_mul_left b 1⟩
  · rw [max_eq_left ha]
    exact ⟨dvd_rfl, one_dvd a, dvd_mul_right a 1⟩
  · rw [max_self]
    exact ⟨dvd_rfl, dvd_rfl, dvd_mul_right a a⟩

theorem elementCount_combine (hs : ∀ d ∈ s.dims, 1 ≤ d) (ht : ∀ d ∈ t.dims, 1 ≤ d)
    (h : s.Fits t) :
    elementCount s.dims ∣ elementCount (s.combine t).dims ∧
      elementCount t.dims ∣ elementCount (s.combine t).dims ∧
        elementCount (s.combine t).dims ∣ elementCount s.dims * elementCount t.dims := by
  have hone : ∀ {dims : Shape}, (∀ d ∈ dims, 1 ≤ d) → ∀ i, 1 ≤ fromEnd 1 dims i := by
    intro dims hdims i
    rcases fromEnd_eq_or_mem 1 dims i with hi | hi
    · exact hi.ge
    · exact hdims _ hi
  have hpair : ∀ pair ∈ align 1 s.dims t.dims, pair.1 ∣ max pair.1 pair.2 ∧
      pair.2 ∣ max pair.1 pair.2 ∧ max pair.1 pair.2 ∣ pair.1 * pair.2 :=
    (forall_mem_align (P := fun pair => pair.1 ∣ max pair.1 pair.2 ∧
      pair.2 ∣ max pair.1 pair.2 ∧ max pair.1 pair.2 ∣ pair.1 * pair.2) (by simp)).mpr
      fun i => dvd_max_of_not_clashing (hone hs i) (hone ht i) (h.dims i)
  have hfst : elementCount s.dims = ((align 1 s.dims t.dims).map Prod.fst).prod := by
    rw [map_fst_align]
    exact (elementCount_leftpad _ _).symm
  have hsnd : elementCount t.dims = ((align 1 s.dims t.dims).map Prod.snd).prod := by
    rw [map_snd_align]
    exact (elementCount_leftpad _ _).symm
  rw [hfst, hsnd, ← List.prod_map_mul]
  exact ⟨prod_map_dvd_prod_map fun pair hp => (hpair pair hp).1,
    prod_map_dvd_prod_map fun pair hp => (hpair pair hp).2.1,
    prod_map_dvd_prod_map fun pair hp => (hpair pair hp).2.2⟩

theorem fits_of_broadcast (h : (broadcast lhs lhsNames rhs rhsNames).result = .ok r) :
    (lhsNames.on lhs).Fits (rhsNames.on rhs) := by
  obtain ⟨left, hleft, hrest⟩ := result_bind_eq_ok.mp h
  obtain ⟨right, hright, -⟩ := result_bind_eq_ok.mp hrest
  rw [broadcast_eq_join (GivenNames.assign_eq_pure hleft) (GivenNames.assign_eq_pure hright)] at h
  rw [GivenNames.on, GivenNames.on, GivenNames.read_eq_of_assign hleft,
    GivenNames.read_eq_of_assign hright]
  exact fits_of_join h

theorem elementCount_of_broadcast (hl : ∀ d ∈ lhs, 1 ≤ d) (hr : ∀ d ∈ rhs, 1 ≤ d)
    (h : (broadcast lhs lhsNames rhs rhsNames).result = .ok r) :
    elementCount lhs ∣ elementCount r.dims ∧ elementCount rhs ∣ elementCount r.dims ∧
      elementCount r.dims ∣ elementCount lhs * elementCount rhs := by
  have hfits := fits_of_broadcast h
  obtain ⟨-, -, rfl⟩ := eq_combine_of_broadcast h
  exact elementCount_combine (s := lhsNames.on lhs) (t := rhsNames.on rhs) hl hr hfits

end Broadcast

/-- No operation loses count of the elements. Removed axes take the product of their dimensions with
them, each axis once and only where it is one of the shape. Removing unit axes and permuting leave
the count as it is, and a contraction takes the contracted dimensions from both operands. A common
shape of two shapes without empty axes is a multiple of both and divides their product. -/
theorem elements_conserved :
    (∀ dims axes (names : GivenNames) r, (removeAxes dims axes names).result = .ok r →
      elementCount dims = elementCount r.dims * elementCount (selectAxes axes.dedup dims)) ∧
    (∀ dims axes (names : GivenNames) r, (removeUnitAxes dims axes names).result = .ok r →
      elementCount r.dims = elementCount dims) ∧
    (∀ dims permutation (names : GivenNames) r, permutation.Nodup →
      (permute dims permutation names).result = .ok r →
        elementCount r.dims = elementCount dims) ∧
    (∀ lhs lhsAxes (lhsNames : GivenNames) rhs rhsAxes (rhsNames : GivenNames) r,
      DistinctAxes lhs.length lhsAxes → DistinctAxes rhs.length rhsAxes →
      (dot lhs lhsAxes lhsNames rhs rhsAxes rhsNames).result = .ok r →
        let contracted := elementCount (selectAxes lhsAxes lhs)
        elementCount (selectAxes rhsAxes rhs) = contracted ∧
          elementCount lhs * elementCount rhs = elementCount r.dims * contracted * contracted) ∧
    ∀ lhs (lhsNames : GivenNames) rhs (rhsNames : GivenNames) r,
      (∀ d ∈ lhs, 1 ≤ d) → (∀ d ∈ rhs, 1 ≤ d) →
      (broadcast lhs lhsNames rhs rhsNames).result = .ok r →
        elementCount lhs ∣ elementCount r.dims ∧ elementCount rhs ∣ elementCount r.dims ∧
          elementCount r.dims ∣ elementCount lhs * elementCount rhs := by
  refine ⟨?_, ?_, ?_, ?_, ?_⟩
  · intro dims axes names r h
    exact elementCount_of_removeAxes h
  · intro dims axes names r h
    exact elementCount_of_removeUnitAxes h
  · intro dims permutation names r hnodup h
    exact elementCount_of_permute hnodup h
  · intro lhs lhsAxes lhsNames rhs rhsAxes rhsNames r hl hr h
    exact elementCount_of_dot hl hr h
  · intro lhs lhsNames rhs rhsNames r hl hr h
    exact elementCount_of_broadcast hl hr h

/-- A removal along axes of which one comes twice and two are none of the shape, a rotation of three
axes, a contraction of two axes against each other, and a broadcast of shapes of different ranks. -/
theorem elements_conserved_repeated_axis :
    (removeAxes [2, 3, 4] [1, -1, 1, 7] none).result = .ok (unnamed [2, 4]) ∧
      elementCount [2, 3, 4] = elementCount [2, 4] * elementCount [3] ∧
      (removeUnitAxes [1, 3, 1] [2, 5] none).result = .ok (unnamed [1, 3]) ∧
      elementCount [1, 3] = elementCount [1, 3, 1] ∧
      [(2 : ℤ), 0, 1].Nodup ∧
      (permute [2, 3, 4] [2, 0, 1] none).result = .ok (unnamed [4, 2, 3]) ∧
      elementCount [4, 2, 3] = elementCount [2, 3, 4] ∧
      DistinctAxes 3 [2, 0] ∧ DistinctAxes 3 [0, 1] ∧
      (dot [2, 3, 4] [2, 0] none [4, 2, 5] [0, 1] none).result = .ok (unnamed [3, 5]) ∧
      elementCount [2, 3, 4] * elementCount [4, 2, 5] =
        elementCount [3, 5] * elementCount [4, 2] * elementCount [4, 2] ∧
      (∀ d ∈ ([2, 1, 3] : Shape), 1 ≤ d) ∧ (∀ d ∈ ([4, 1] : Shape), 1 ≤ d) ∧
      (broadcast [2, 1, 3] none [4, 1] none).result = .ok (unnamed [2, 4, 3]) ∧
      elementCount [4, 1] ∣ elementCount [2, 4, 3] := by
  obtain ⟨hremove, hunit, hpermute, hdot, hbroadcast⟩ := elements_conserved
  have hr : (removeAxes [2, 3, 4] [1, -1, 1, 7] none).result = .ok (unnamed [2, 4]) :=
    Outcome.result_eq_ok_of_answer? (by decide +kernel)
  have hu : (removeUnitAxes [1, 3, 1] [2, 5] none).result = .ok (unnamed [1, 3]) :=
    Outcome.result_eq_ok_of_answer? (by decide +kernel)
  have hnodup : [(2 : ℤ), 0, 1].Nodup := by decide
  have hp : (permute [2, 3, 4] [2, 0, 1] none).result = .ok (unnamed [4, 2, 3]) :=
    Outcome.result_eq_ok_of_answer? (by decide +kernel)
  have hd : (dot [2, 3, 4] [2, 0] none [4, 2, 5] [0, 1] none).result = .ok (unnamed [3, 5]) :=
    Outcome.result_eq_ok_of_answer? (by decide +kernel)
  have hl : DistinctAxes 3 [2, 0] := ⟨by decide, by decide, by decide⟩
  have hl' : DistinctAxes 3 [0, 1] := ⟨by decide, by decide, by decide⟩
  have hb : (broadcast [2, 1, 3] none [4, 1] none).result = .ok (unnamed [2, 4, 3]) :=
    Outcome.result_eq_ok_of_answer? (by decide +kernel)
  obtain ⟨-, hcount⟩ := hdot [2, 3, 4] _ _ [4, 2, 5] _ _ _ hl hl' hd
  obtain ⟨-, hdvd, -⟩ := hbroadcast _ _ _ _ _ (by decide) (by decide) hb
  exact ⟨hr, hremove _ _ _ _ hr, hu, hunit _ _ _ _ hu, hnodup, hp, hpermute _ _ _ _ hnodup hp, hl,
    hl', hd, hcount, by decide, by decide, hb, hdvd⟩

end TensorShape
