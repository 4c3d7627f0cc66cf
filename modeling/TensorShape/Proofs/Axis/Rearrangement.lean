import Mathlib.Data.List.Dedup
import Mathlib.Data.List.Perm.Subperm
import TensorShape.Proofs.Axis.Erasure
import TensorShape.Proofs.Axis.Selection

/-! # Rearranged axes

Distinct axes of a shape that are as many as its rank are all of its axes, so selecting them
rearranges the entries and loses none. Whatever the axes, the entries that they select, each once,
and those that are left when they are erased are all entries together.
-/

namespace TensorShape

variable {α : Type} {rank : ℕ} {axes : List ℤ} {xs : List α}

theorem mem_allAxes {i : ℤ} : i ∈ allAxes rank ↔ 0 ≤ i ∧ i < rank := by
  rw [allAxes, List.mem_map]
  constructor
  · rintro ⟨n, hn, rfl⟩
    exact ⟨Int.natCast_nonneg n, Int.ofNat_lt.mpr (List.mem_range.mp hn)⟩
  · rintro ⟨hi, hlt⟩
    obtain ⟨n, rfl⟩ := Int.eq_ofNat_of_zero_le hi
    exact ⟨n, List.mem_range.mpr (Int.ofNat_lt.mp hlt), rfl⟩

theorem DistinctAxes.perm_allAxes (h : DistinctAxes rank axes) (hlen : axes.length = rank) :
    axes.Perm (allAxes rank) := by
  have hsubset : axes ⊆ allAxes rank := fun i hi => mem_allAxes.mpr (h.within i hi)
  have hlen' : (allAxes rank).length ≤ axes.length :=
    Nat.le_of_eq ((length_allAxes rank).trans hlen.symm)
  exact (List.subperm_of_subset h.nodup hsubset).perm_of_length_le hlen'

theorem selectAxes_allAxes (xs : List α) : selectAxes (allAxes xs.length) xs = xs := by
  apply List.map_injective_iff.mpr (Option.some_injective α)
  have hselect := map_entryAt?_eq_map_some fun i (hi : i ∈ allAxes xs.length) => mem_allAxes.mp hi
  exact hselect.symm.trans (map_entryAt?_allAxes xs)

theorem selectAxes_perm (h : DistinctAxes xs.length axes) (hlen : axes.length = xs.length) :
    (selectAxes axes xs).Perm xs := by
  have hperm := (h.perm_allAxes hlen).filterMap (entryAt? xs)
  rwa [← selectAxes, ← selectAxes, selectAxes_allAxes] at hperm

theorem eraseAxes_eq_selectAxes (axes : List ℤ) (xs : List α) :
    eraseAxes axes xs = selectAxes ((allAxes xs.length).filter fun k => k ∉ axes) xs := by
  apply List.map_injective_iff.mpr (Option.some_injective α)
  rw [map_some_eraseAxes, eraseAxes_allAxes]
  exact map_entryAt?_eq_map_some fun i hi => mem_allAxes.mp (List.mem_of_mem_filter hi)

theorem selectAxes_filter_mem_allAxes (axes : List ℤ) (xs : List α) :
    selectAxes (axes.filter fun k => k ∈ allAxes xs.length) xs = selectAxes axes xs := by
  rw [selectAxes, List.filterMap_filter]
  refine List.filterMap_congr fun k _ => ?_
  split
  · rfl
  · rename_i hk
    rw [decide_eq_true_eq, mem_allAxes, ← entryAt?_isSome] at hk
    exact (Option.not_isSome_iff_eq_none.mp hk).symm

theorem eraseAxes_append_selectAxes_perm (axes : List ℤ) (xs : List α) :
    (eraseAxes axes xs ++ selectAxes axes.dedup xs).Perm xs := by
  have hnodup := nodup_allAxes xs.length
  have hwithin : (axes.dedup.filter fun k => k ∈ allAxes xs.length).Perm
      ((allAxes xs.length).filter fun k => k ∈ axes) :=
    (List.perm_ext_iff_of_nodup (axes.nodup_dedup.filter _) (hnodup.filter _)).mpr fun k => by
      simp [and_comm]
  have hsplit : (((allAxes xs.length).filter fun k => k ∉ axes) ++
      axes.dedup.filter fun k => k ∈ allAxes xs.length).Perm (allAxes xs.length) := by
    refine (hwithin.append_left _).trans (List.perm_append_comm.trans ?_)
    simpa using List.filter_append_perm (fun k => decide (k ∈ axes)) (allAxes xs.length)
  have hselect := hsplit.filterMap (entryAt? xs)
  rw [List.filterMap_append] at hselect
  rw [eraseAxes_eq_selectAxes, ← selectAxes_filter_mem_allAxes axes.dedup]
  exact hselect.trans (.of_eq (selectAxes_allAxes xs))

end TensorShape
