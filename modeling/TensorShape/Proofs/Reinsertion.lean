import Mathlib.Data.List.Sort
import TensorShape.Proofs.ResolvedAxes

/-! # Putting removed axes back

Removed axes are put back one after the other, in ascending order, each at the index that it had.
By the time an axis is put back, everything in front of it is there again, so it comes to stand
where it was. The dimensions and the names of the axes come back together.
-/

namespace TensorShape

variable {α : Type} {xs : List α} {x : α} {axes : List ℤ}

/-- The list with an entry put in at a position, or at its end where it is shorter. -/
def insertEntry (n : ℕ) (x : α) (xs : List α) : List α := xs.take n ++ x :: xs.drop n

theorem insertEntry_append (xs ys : List α) (x : α) :
    insertEntry xs.length x (xs ++ ys) = xs ++ x :: ys := by
  rw [insertEntry, List.take_left, List.drop_left]

theorem insertEntry_eraseAxes {n : ℕ} (hx : xs[n]? = some x) (hafter : ∀ i ∈ axes, (n : ℤ) < i) :
    insertEntry n x (eraseAxes ((n : ℤ) :: axes) xs) = eraseAxes axes xs := by
  obtain ⟨front, back, rfl, rfl⟩ : ∃ front back, xs = front ++ [x] ++ back ∧ front.length = n := by
    obtain ⟨hn, rfl⟩ := List.getElem?_eq_some_iff.mp hx
    exact ⟨xs.take n, xs.drop (n + 1), by simp, List.length_take_of_le (Nat.le_of_lt hn)⟩
  have hback :
      eraseAxes (((front.length : ℤ) :: axes).map fun i => i - (front ++ [x]).length) back =
        eraseAxes (axes.map fun i => i - (front ++ [x]).length) back := by
    refine eraseAxes_congr fun m _ => ?_
    rw [List.map_cons, List.mem_cons, or_iff_right]
    simp only [List.length_append, List.length_singleton]
    omega
  have hgone : eraseAxes ((front.length : ℤ) :: axes) (front ++ [x]) = front := by
    have hfront : eraseAxes ((front.length : ℤ) :: axes) front = front := by
      refine eraseAxes_eq_self fun m hm hmem => ?_
      rcases List.mem_cons.mp hmem with heq | hmem
      · omega
      · have hlt := hafter m hmem
        omega
    rw [eraseAxes_concat, hfront, if_pos List.mem_cons_self, List.append_nil]
  have hkept : eraseAxes axes (front ++ [x]) = front ++ [x] := by
    refine eraseAxes_eq_self fun m hm hmem => ?_
    have hlt := hafter m hmem
    rw [List.length_append, List.length_singleton] at hm
    omega
  rw [eraseAxes_append _ (front ++ [x]), hback, hgone, eraseAxes_append axes (front ++ [x]), hkept,
    insertEntry_append, List.append_assoc, List.singleton_append]

namespace LabelledShape

variable {ν : Type} {s : LabelledShape ν} {axis : ℤ}

/-- The axis of `source` at an index, with its dimension and its name, put into a shape at that
index. -/
def reinsert? (source s : LabelledShape ν) (axis : ℤ) : Option (LabelledShape ν) := do
  let dim ← entryAt? source.dims axis
  let name ← entryAt? source.names axis
  return ⟨insertEntry axis.toNat dim s.dims, insertEntry axis.toNat name s.names⟩

theorem reinsert?_erase_cons (hs : s.Aligned) (hwithin : 0 ≤ axis ∧ axis < s.rank)
    (hafter : ∀ i ∈ axes, axis < i) :
    s.reinsert? (s.erase (axis :: axes)) axis = some (s.erase axes) := by
  obtain ⟨n, rfl⟩ := Int.eq_ofNat_of_zero_le hwithin.1
  have hn : n < s.dims.length := Int.ofNat_lt.mp hwithin.2
  have hn' : n < s.names.length := hs.symm ▸ hn
  have hdim := List.getElem?_eq_getElem hn
  have hname := List.getElem?_eq_getElem hn'
  simp only [reinsert?, entryAt?_natCast, hdim, hname, erase, Int.toNat_natCast,
    insertEntry_eraseAxes hdim hafter, insertEntry_eraseAxes hname hafter, Option.bind_eq_bind,
    Option.bind_some, Option.pure_def]

/-- Put back from the first to the last one, all axes that are gone are there again. -/
theorem foldlM_reinsert?_erase (hs : s.Aligned) (hwithin : ∀ i ∈ axes, 0 ≤ i ∧ i < s.rank)
    (hsorted : axes.Pairwise (· < ·)) : axes.foldlM s.reinsert? (s.erase axes) = some s := by
  induction axes with
  | nil => exact congrArg some (erase_nil s)
  | cons axis axes ih =>
    rw [List.forall_mem_cons] at hwithin
    rw [List.pairwise_cons] at hsorted
    rw [List.foldlM_cons, reinsert?_erase_cons hs hwithin.1 hsorted.1]
    exact ih hwithin.2 hsorted.2

end LabelledShape

/-- The removal of distinct axes leaves as many axes as there are others, and it is undone by
putting each of them back where it was, in ascending order, whatever their order was. -/
theorem reinsertion_undoes_removal {s : NamedShape} (hs : s.Aligned)
    (h : DistinctAxes s.rank axes) :
    ∃ r, removeAxes s.dims axes s.given = pure r ∧ r.rank + axes.length = s.rank ∧
      axes.mergeSort.foldlM s.reinsert? r = some s := by
  have hperm := axes.mergeSort_perm (· ≤ ·)
  have hsorted : axes.mergeSort.Pairwise (· < ·) :=
    (List.sortedLE_mergeSort.sortedLT_of_nodup (hperm.nodup_iff.mpr h.nodup)).pairwise
  have hwithin : ∀ i ∈ axes.mergeSort, 0 ≤ i ∧ i < s.rank :=
    fun i hi => h.within i (hperm.mem_iff.mp hi)
  refine ⟨s.erase axes, removeAxes_eq_pure hs axes, rank_erase_add_length h, ?_⟩
  rw [LabelledShape.erase_congr s fun i => hperm.mem_iff.symm]
  exact LabelledShape.foldlM_reinsert?_erase hs hwithin hsorted

/-- Three of four axes, of which the last one is listed first. -/
theorem reinsertion_undoes_removal_unordered :
    let s : NamedShape := ⟨[2, 3, 5, 7], [some "row", none, some "column", some "row"]⟩
    let r : NamedShape := ⟨[5], [some "column"]⟩
    s.Aligned ∧ DistinctAxes s.rank [3, 0, 1] ∧ removeAxes s.dims [3, 0, 1] s.given = pure r ∧
      r.rank + 3 = s.rank ∧ ([3, 0, 1] : List ℤ).mergeSort.foldlM s.reinsert? r = some s := by
  intro s r
  have hs : s.Aligned := rfl
  have hdistinct : DistinctAxes s.rank [3, 0, 1] := by decide
  obtain ⟨r', hr', hrank, hback⟩ := reinsertion_undoes_removal hs hdistinct
  have hok : (removeAxes s.dims [3, 0, 1] s.given).result = .ok r :=
    Outcome.result_eq_ok_of_answer? (by decide +kernel)
  obtain rfl : r' = r := Outcome.result_pure_eq_ok.mp (hr' ▸ hok)
  exact ⟨hs, hdistinct, hr', hrank, hback⟩

end TensorShape
