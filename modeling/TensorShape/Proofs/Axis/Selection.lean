import Mathlib.Data.Int.Order.Basic
import TensorShape.Axis.Selection

/-! # Selected entries

Axes within a list select one entry each, in order. Selecting and erasing from two lists of one
length side by side is selecting and erasing from the list of their pairs.
-/

namespace TensorShape

variable {α β : Type} {axes : List ℤ} {xs : List α} {ys : List β}

theorem entryAt?_map (f : α → β) (xs : List α) (i : ℤ) :
    entryAt? (xs.map f) i = (entryAt? xs i).map f := by
  cases i with
  | ofNat n => exact List.getElem?_map
  | negSucc n => rfl

theorem map_entryAt?_eq_map_some (h : ∀ i ∈ axes, 0 ≤ i ∧ i < xs.length) :
    axes.map (entryAt? xs) = (selectAxes axes xs).map some := by
  induction axes with
  | nil => rfl
  | cons i axes ih =>
    rw [List.forall_mem_cons] at h
    obtain ⟨x, hx⟩ := Option.isSome_iff_exists.mp (entryAt?_isSome.mpr h.1)
    have hselect : selectAxes (i :: axes) xs = x :: selectAxes axes xs :=
      List.filterMap_cons_some hx
    rw [List.map_cons, ih h.2, hselect, List.map_cons, hx]

theorem length_selectAxes (h : ∀ i ∈ axes, 0 ≤ i ∧ i < xs.length) :
    (selectAxes axes xs).length = axes.length := by
  rw [← List.length_map some, ← map_entryAt?_eq_map_some h, List.length_map]

theorem selectAxes_zip (axes : List ℤ) (h : xs.length = ys.length) :
    selectAxes axes (xs.zip ys) = (selectAxes axes xs).zip (selectAxes axes ys) :=
  List.zip_of_prod
    (by rw [map_selectAxes, List.map_fst_zip (Nat.le_of_eq h)])
    (by rw [map_selectAxes, List.map_snd_zip (Nat.le_of_eq h.symm)])

theorem eraseAxes_zip (axes : List ℤ) (h : xs.length = ys.length) :
    eraseAxes axes (xs.zip ys) = (eraseAxes axes xs).zip (eraseAxes axes ys) :=
  List.zip_of_prod
    (by rw [map_eraseAxes, List.map_fst_zip (Nat.le_of_eq h)])
    (by rw [map_eraseAxes, List.map_snd_zip (Nat.le_of_eq h.symm)])

end TensorShape
