import Mathlib.Data.Option.Basic
import TensorShape.Proofs.Axis.Rearrangement

/-! # Selections one after the other

Selecting from selected entries is selecting once, along the axes that the first selection lists at
the positions of the second. So a selection of as many axes as the rank can be undone exactly if it
lists none of them twice. Erasing from selected entries is erasing from the list of the selected
axes.
-/

namespace TensorShape

variable {α : Type} {rank : ℕ} {axes gone more : List ℤ} {xs : List α} {x : α}

theorem mem_of_entryAt? {i : ℤ} (h : entryAt? xs i = some x) : x ∈ xs := by
  cases i with
  | ofNat n => exact List.mem_of_getElem? h
  | negSucc n => cases h

theorem selectAxes_append (axes more : List ℤ) (xs : List α) :
    selectAxes (axes ++ more) xs = selectAxes axes xs ++ selectAxes more xs :=
  List.filterMap_append

theorem entryAt?_selectAxes (h : ∀ i ∈ axes, 0 ≤ i ∧ i < xs.length) (i : ℤ) :
    entryAt? (selectAxes axes xs) i = (entryAt? axes i).bind (entryAt? xs) := by
  have hmap := congrArg (fun entries => entryAt? entries i) (map_entryAt?_eq_map_some h)
  simp only [entryAt?_map] at hmap
  cases haxis : entryAt? axes i with
  | none =>
    rw [haxis, Option.map_none] at hmap
    exact Option.map_eq_none_iff.mp hmap.symm
  | some axis =>
    rw [haxis, Option.map_some] at hmap
    obtain ⟨x, hx, hsome⟩ := Option.map_eq_some_iff.mp hmap.symm
    rw [hx, Option.bind_some, hsome]

theorem selectAxes_selectAxes (h : ∀ i ∈ axes, 0 ≤ i ∧ i < xs.length) (more : List ℤ) :
    selectAxes more (selectAxes axes xs) = selectAxes (selectAxes more axes) xs := by
  simp only [selectAxes, List.filterMap_filterMap]
  exact List.filterMap_congr fun i _ => entryAt?_selectAxes h i

theorem eraseAxes_selectAxes (h : ∀ i ∈ axes, 0 ≤ i ∧ i < xs.length) (gone : List ℤ) :
    eraseAxes gone (selectAxes axes xs) = selectAxes (eraseAxes gone axes) xs := by
  rw [eraseAxes_eq_selectAxes, length_selectAxes h, selectAxes_selectAxes h,
    ← eraseAxes_eq_selectAxes]

section Sources

/-- The axes that the axes of a result come from: as many as the rank, and each within the shape.
One of them may be listed twice, and another not at all. -/
structure SourceAxes (rank : ℕ) (axes : List ℤ) : Prop where
  length_eq : axes.length = rank
  within : ∀ i ∈ axes, 0 ≤ i ∧ i < rank

instance (rank : ℕ) (axes : List ℤ) : Decidable (SourceAxes rank axes) :=
  decidable_of_iff (axes.length = rank ∧ ∀ i ∈ axes, 0 ≤ i ∧ i < rank)
    ⟨fun h => ⟨h.1, h.2⟩, fun h => ⟨h.length_eq, h.within⟩⟩

theorem sourceAxes_of_perm (h : axes.Perm (allAxes rank)) : SourceAxes rank axes where
  length_eq := h.length_eq.trans (length_allAxes rank)
  within := fun _ hi => mem_allAxes.mp (h.mem_iff.mp hi)

theorem SourceAxes.select (ha : SourceAxes rank axes) (hm : SourceAxes rank more) :
    SourceAxes rank (selectAxes more axes) where
  length_eq := by
    have hwithin : ∀ i ∈ more, 0 ≤ i ∧ i < axes.length := ha.length_eq.symm ▸ hm.within
    rw [length_selectAxes hwithin, hm.length_eq]
  within := by
    intro i hi
    obtain ⟨k, -, hk⟩ := mem_selectAxes.mp hi
    exact ha.within i (mem_of_entryAt? hk)

theorem SourceAxes.distinctAxes (h : SourceAxes rank axes) (hnodup : axes.Nodup) :
    DistinctAxes rank axes :=
  ⟨hnodup, fun i hi => (h.within i hi).1, fun i hi => (h.within i hi).2⟩

theorem SourceAxes.nodup_iff_perm (h : SourceAxes rank axes) :
    axes.Nodup ↔ axes.Perm (allAxes rank) :=
  ⟨fun hnodup => (h.distinctAxes hnodup).perm_allAxes h.length_eq,
    fun hperm => hperm.nodup_iff.mpr (nodup_allAxes rank)⟩

/-- For each axis the position at which it is listed first. -/
def inverseAxes (axes : List ℤ) : List ℤ :=
  (allAxes axes.length).map fun axis => (axes.idxOf axis : ℤ)

theorem sourceAxes_inverseAxes (h : axes.Perm (allAxes rank)) :
    SourceAxes rank (inverseAxes axes) where
  length_eq := by
    rw [inverseAxes, List.length_map, length_allAxes, (sourceAxes_of_perm h).length_eq]
  within := by
    have hlen := (sourceAxes_of_perm h).length_eq
    rw [inverseAxes, hlen, List.forall_mem_map]
    intro i hi
    have hlt := List.idxOf_lt_length_of_mem (h.mem_iff.mpr hi)
    omega

theorem selectAxes_inverseAxes (h : axes.Perm (allAxes rank)) :
    selectAxes (inverseAxes axes) axes = allAxes rank := by
  have hlen := (sourceAxes_of_perm h).length_eq
  rw [selectAxes, inverseAxes, List.filterMap_map, hlen]
  refine (List.filterMap_congr fun i hi => ?_).trans List.filterMap_some
  exact List.getElem?_idxOf (h.mem_iff.mpr hi)

/-- Source axes from which all axes can be selected again are listed once each. -/
theorem SourceAxes.exists_selectAxes_eq_iff (h : SourceAxes rank axes) :
    (∃ back, selectAxes back axes = allAxes rank) ↔ axes.Nodup := by
  constructor
  · rintro ⟨back, hback⟩
    -- No axis is left out, so there is no room for one that is listed twice.
    have hsubset : allAxes rank ⊆ axes := by
      intro i hi
      obtain ⟨k, -, hk⟩ := mem_selectAxes.mp (hback ▸ hi)
      exact mem_of_entryAt? hk
    have hle : axes.length ≤ (allAxes rank).length :=
      Nat.le_of_eq (h.length_eq.trans (length_allAxes rank).symm)
    have hperm := (List.subperm_of_subset (nodup_allAxes rank) hsubset).perm_of_length_le hle
    exact hperm.nodup_iff.mp (nodup_allAxes rank)
  · exact fun hnodup => ⟨_, selectAxes_inverseAxes (h.nodup_iff_perm.mp hnodup)⟩

theorem selectAxes_reverse_allAxes (xs : List α) :
    selectAxes (allAxes xs.length).reverse xs = xs.reverse := by
  rw [selectAxes, List.filterMap_reverse, ← selectAxes, selectAxes_allAxes]

end Sources

end TensorShape
