import Mathlib.Data.List.Basic
import TensorShape.Broadcast.Pair

/-! # Entries counted from the end

A list that has one entry for each axis is read from its last entry on, and a missing entry counts
as a blank one. Alignment at the end pairs the entries at equal positions, and a list is determined
by its length and its entries.
-/

namespace TensorShape

variable {α β : Type} {fill : α} {xs ys : List α} {i : ℕ}

/-- The entry at a position that counts from the last one, or the filling where there is none. -/
def fromEnd (fill : α) (xs : List α) (i : ℕ) : α := xs.reverse[i]?.getD fill

theorem fromEnd_of_length_le (h : xs.length ≤ i) : fromEnd fill xs i = fill := by
  simp [fromEnd, h]

theorem getElem?_reverse_eq_fromEnd (fill : α) (h : i < xs.length) :
    xs.reverse[i]? = some (fromEnd fill xs i) := by
  have hi : i < xs.reverse.length := by rwa [List.length_reverse]
  rw [fromEnd, List.getElem?_eq_getElem hi, Option.getD_some]

theorem fromEnd_eq_getElem (h : i < xs.length) :
    fromEnd fill xs i = xs[xs.length - 1 - i] := by
  have hi : i < xs.reverse.length := by rwa [List.length_reverse]
  rw [fromEnd, List.getElem?_eq_getElem hi, Option.getD_some, List.getElem_reverse]

theorem fromEnd_eq_or_mem (fill : α) (xs : List α) (i : ℕ) :
    fromEnd fill xs i = fill ∨ fromEnd fill xs i ∈ xs := by
  rcases Nat.lt_or_ge i xs.length with h | h
  · right
    have hm := List.mem_of_getElem? (getElem?_reverse_eq_fromEnd fill h)
    exact List.mem_reverse.mp hm
  · exact Or.inl (fromEnd_of_length_le h)

theorem fromEnd_replicate (n : ℕ) : fromEnd fill (List.replicate n fill) i = fill := by
  rcases fromEnd_eq_or_mem fill (List.replicate n fill) i with h | h
  · exact h
  · exact List.eq_of_mem_replicate h

theorem fromEnd_map (f : α → β) (fill : α) (xs : List α) (i : ℕ) :
    fromEnd (f fill) (xs.map f) i = f (fromEnd fill xs i) := by
  simp only [fromEnd, ← List.map_reverse, List.getElem?_map]
  cases xs.reverse[i]? <;> rfl

theorem eq_of_fromEnd_eq (fill : α) (hlen : xs.length = ys.length)
    (h : ∀ i, fromEnd fill xs i = fromEnd fill ys i) : xs = ys := by
  apply List.reverse_injective
  apply List.ext_getElem?
  intro i
  rcases Nat.lt_or_ge i xs.length with hi | hi
  · rw [getElem?_reverse_eq_fromEnd fill hi,
      getElem?_reverse_eq_fromEnd fill (hlen ▸ hi), h i]
  · rw [List.getElem?_eq_none (by simpa using hi), List.getElem?_eq_none (by simp; omega)]

theorem exists_fromEnd_of_mem (fill : α) {x : α} (h : x ∈ xs) :
    ∃ i < xs.length, fromEnd fill xs i = x := by
  obtain ⟨i, hi, hx⟩ := List.mem_iff_getElem.mp (List.mem_reverse.mpr h)
  rw [List.length_reverse] at hi
  refine ⟨i, hi, Option.some.inj ?_⟩
  rw [← getElem?_reverse_eq_fromEnd fill hi, ← hx, List.getElem?_eq_getElem]

theorem reverse_leftpad (n : ℕ) :
    (xs.leftpad n fill).reverse = xs.reverse ++ List.replicate (n - xs.length) fill := by
  simp [List.leftpad]

theorem fromEnd_leftpad (n : ℕ) : fromEnd fill (xs.leftpad n fill) i = fromEnd fill xs i := by
  rw [fromEnd, fromEnd, reverse_leftpad, List.getElem?_append]
  split
  · rfl
  · rename_i h
    rw [List.getElem?_eq_none (Nat.le_of_not_lt h), List.getElem?_replicate]
    split <;> rfl

theorem fromEnd_zip (hlen : xs.length = ys.length) :
    fromEnd (fill, fill) (xs.zip ys) i = (fromEnd fill xs i, fromEnd fill ys i) := by
  rw [fromEnd, List.zip, List.reverse_zipWith hlen, List.getElem?_zipWith]
  rcases Nat.lt_or_ge i xs.length with hi | hi
  · rw [getElem?_reverse_eq_fromEnd fill hi,
      getElem?_reverse_eq_fromEnd fill (hlen ▸ hi)]
    rfl
  · rw [List.getElem?_eq_none (by simpa using hi), fromEnd_of_length_le hi,
      fromEnd_of_length_le (hlen ▸ hi)]
    rfl

theorem length_leftpad_max :
    (xs.leftpad (max xs.length ys.length) fill).length = max xs.length ys.length ∧
      (ys.leftpad (max xs.length ys.length) fill).length = max xs.length ys.length := by
  rw [List.length_leftpad, List.length_leftpad]
  omega

@[simp] theorem length_align : (align fill xs ys).length = max xs.length ys.length := by
  rw [align, List.length_zip, length_leftpad_max.1, length_leftpad_max.2, Nat.min_self]

theorem align_of_length_eq (h : xs.length = ys.length) : align fill xs ys = xs.zip ys := by
  simp [align, List.leftpad, h]

theorem fromEnd_align :
    fromEnd (fill, fill) (align fill xs ys) i = (fromEnd fill xs i, fromEnd fill ys i) := by
  rw [align, fromEnd_zip (length_leftpad_max.1.trans length_leftpad_max.2.symm), fromEnd_leftpad,
    fromEnd_leftpad]

theorem getElem?_align_eq_some {k : ℕ} {pair : α × α} :
    (align fill xs ys)[k]? = some pair ↔ k < max xs.length ys.length ∧
      (fromEnd fill xs (max xs.length ys.length - 1 - k),
        fromEnd fill ys (max xs.length ys.length - 1 - k)) = pair := by
  have hlen : (align fill xs ys).length = max xs.length ys.length := length_align
  rw [List.getElem?_eq_some_iff, ← hlen, ← fromEnd_align]
  have hat (hk : k < (align fill xs ys).length) : (align fill xs ys)[k] =
      fromEnd (fill, fill) (align fill xs ys) ((align fill xs ys).length - 1 - k) := by
    rw [fromEnd_eq_getElem (by omega)]
    congr 1
    omega
  constructor
  · rintro ⟨hk, h⟩
    exact ⟨hk, (hat hk).symm.trans h⟩
  · rintro ⟨hk, h⟩
    exact ⟨hk, (hat hk).trans h⟩

theorem forall_mem_align {P : α × α → Prop} (hfill : P (fill, fill)) :
    (∀ pair ∈ align fill xs ys, P pair) ↔ ∀ i, P (fromEnd fill xs i, fromEnd fill ys i) := by
  constructor
  · intro h i
    rcases fromEnd_eq_or_mem (fill, fill) (align fill xs ys) i with hp | hp
    · rwa [← fromEnd_align, hp]
    · rw [← fromEnd_align]
      exact h _ hp
  · intro h pair hp
    obtain ⟨i, -, rfl⟩ := exists_fromEnd_of_mem (fill, fill) hp
    rw [fromEnd_align]
    exact h i

theorem fromEnd_map_align (f : α × α → β) :
    fromEnd (f (fill, fill)) ((align fill xs ys).map f) i =
      f (fromEnd fill xs i, fromEnd fill ys i) := by
  rw [fromEnd_map, fromEnd_align]

end TensorShape
