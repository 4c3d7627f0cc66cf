import TensorShape.Proofs.Slicing

/-! # Padding undone

A padded axis is sliced back: from its first own element on, over the elements between each two
neighbours, up to the edge that was added at its end. The slice has the size that the axis had
before, whatever its edges, so it is empty exactly where the axis was.
-/

namespace TensorShape

open Outcome

variable {dims : Shape} {paddings : List Padding} {p : Padding}

namespace Padding

def toList (p : Padding) : List ℤ := [p.low, p.high, p.interior]

theorem mapM_toList (paddings : List Padding) :
    (paddings.map toList).mapM ofList = pure paddings := by
  induction paddings with
  | nil => rfl
  | cons p paddings ih =>
    rw [List.map_cons, List.mapM_cons, ih]
    rfl

/-- The slice of a padded axis that leaves out what was added. -/
def undo (p : Padding) (size : ℤ) : Slice := ⟨p.low, size - p.high, p.interior + 1⟩

/-- The slice that undoes a padding has the size from before, also where that is not positive. -/
theorem count_undo (h : 0 ≤ p.interior) (size : ℤ) : (p.undo (p.extend size)).count = size := by
  have hstride : 0 < p.interior + 1 := Int.lt_add_one_of_le h
  have hlength : p.extend size - p.high - p.low =
      size * (p.interior + 1) - p.interior := by
    rw [extend]
    ring
  rw [Slice.count_eq_stepsToCover]
  apply eq_of_forall_ge_iff
  intro n
  simp only [undo]
  rw [stepsToCover_le_iff hstride, hlength]
  constructor
  · intro hle
    by_contra hlt
    have hmul : (n + 1) * (p.interior + 1) ≤ size * (p.interior + 1) :=
      Int.mul_le_mul_of_nonneg_right (by omega) hstride.le
    rw [Int.add_mul, Int.one_mul] at hmul
    omega
  · intro hle
    have hmul : size * (p.interior + 1) ≤ n * (p.interior + 1) :=
      Int.mul_le_mul_of_nonneg_right hle hstride.le
    omega

end Padding

theorem padAxes_eq_pure (hlen : paddings.length = dims.length) :
    padAxes dims paddings = pure (List.zipWith Padding.extend paddings dims) :=
  if_neg (not_not.mpr hlen)

theorem padEntries_toList (dims : Shape) (paddings : List Padding) :
    padEntries dims (paddings.map Padding.toList) = padAxes dims paddings := by
  rw [padEntries, List.length_map, Padding.mapM_toList, pure_bind, padAxes]
  split <;> rfl

theorem padEntries_eq_pure (hlen : paddings.length = dims.length) :
    padEntries dims (paddings.map Padding.toList) =
      pure (List.zipWith Padding.extend paddings dims) :=
  (padEntries_toList dims paddings).trans (padAxes_eq_pure hlen)

def unpadding (dims : Shape) (paddings : List Padding) : List Slice :=
  List.zipWith (fun size p => p.undo (p.extend size)) dims paddings

theorem map_start_unpadding (hlen : paddings.length = dims.length) :
    (unpadding dims paddings).map Slice.start = paddings.map Padding.low := by
  apply List.ext_getElem
  · simp [unpadding, hlen]
  · intro i hi hi'
    simp [unpadding, Padding.undo]

theorem map_limit_unpadding (hlen : paddings.length = dims.length) :
    (unpadding dims paddings).map Slice.limit =
      List.zipWith (fun size p => size - p.high) (List.zipWith Padding.extend paddings dims)
        paddings := by
  apply List.ext_getElem
  · simp [unpadding, hlen]
  · intro i hi hi'
    simp [unpadding, Padding.undo]

theorem map_stride_unpadding (hlen : paddings.length = dims.length) :
    (unpadding dims paddings).map Slice.stride = paddings.map fun p => p.interior + 1 := by
  apply List.ext_getElem
  · simp [unpadding, hlen]
  · intro i hi hi'
    simp [unpadding, Padding.undo]

theorem map_count_unpadding (hlen : paddings.length = dims.length)
    (hinterior : ∀ p ∈ paddings, 0 ≤ p.interior) :
    (unpadding dims paddings).map Slice.count = dims := by
  apply List.ext_getElem
  · simp [unpadding, hlen]
  · intro i hi hi'
    simp [unpadding, Padding.count_undo (hinterior _ (List.getElem_mem _))]

theorem slice_unpadding (hlen : paddings.length = dims.length) :
    slice (paddings.map Padding.low)
        (List.zipWith (fun size p => size - p.high) (List.zipWith Padding.extend paddings dims)
          paddings)
        (paddings.map fun p => p.interior + 1) (some (List.zipWith Padding.extend paddings dims)) =
      Slice.sizes (unpadding dims paddings) := by
  rw [← map_start_unpadding hlen, ← map_limit_unpadding hlen, ← map_stride_unpadding hlen]
  apply slice_eq_sizes
  intro padded hpadded
  obtain rfl := Option.some.inj hpadded
  simp [unpadding, Nat.min_comm]

/-- Padding can be undone. From a padded shape the slice from the low edges to the high ones, in
steps over the interior elements, takes the shape from before where every axis has an element, and
is rejected for the first axis that has none. -/
theorem slice_undoes_padding (hlen : paddings.length = dims.length)
    (hinterior : ∀ p ∈ paddings, 0 ≤ p.interior) :
    ∃ padded, padEntries dims (paddings.map Padding.toList) = pure padded ∧
      let sliced := slice (paddings.map Padding.low)
        (List.zipWith (fun size p => size - p.high) padded paddings)
        (paddings.map fun p => p.interior + 1) (some padded)
      ((∀ d ∈ dims, 1 ≤ d) → sliced = pure dims) ∧
      ∀ (i : ℕ) (hi : i < dims.length), dims[i] < 1 →
        (∀ (j : ℕ) (hj : j < i), 1 ≤ dims[j]) →
          let p := paddings[i]
          sliced.RejectedAs .slicing .emptySlice [("axis", .nat i), ("start", .int p.low),
            ("limit", .int (p.extend dims[i] - p.high)), ("stride", .int (p.interior + 1))] := by
  refine ⟨_, (padEntries_toList dims paddings).trans (padAxes_eq_pure hlen), ?_⟩
  simp only [slice_unpadding hlen]
  have hcount := map_count_unpadding hlen hinterior
  have hstride : ∀ s ∈ unpadding dims paddings, 0 < s.stride := by
    rw [← List.forall_mem_map (f := Slice.stride) (P := fun stride => 0 < stride),
      map_stride_unpadding hlen, List.forall_mem_map]
    exact fun p hp => Int.lt_add_one_of_le (hinterior p hp)
  constructor
  · intro hpos
    rw [← hcount, List.forall_mem_map] at hpos
    rw [Slice.sizes_eq_pure fun s hs => ⟨hstride s hs, hpos s hs⟩, hcount]
  · intro i hi hempty hbefore
    have hlen' : (unpadding dims paddings).length = dims.length := by simp [unpadding, hlen]
    have hentry : ∀ (j : ℕ) (hj : j < dims.length),
        ((unpadding dims paddings)[j]).count = dims[j] := by
      intro j hj
      simp only [unpadding, List.getElem_zipWith]
      exact Padding.count_undo (hinterior _ (List.getElem_mem _)) _
    have hreject := Slice.rejectedAs_sizes hstride (hlen'.symm ▸ hi)
      (fun j hj => by rw [hentry j (hj.trans hi)]; exact hbefore j hj)
      (by rw [hentry i hi]; exact Int.lt_add_one_iff.mp hempty)
    simpa [unpadding, Padding.undo] using hreject

/-- Edges that crop and elements in between. The first shape comes back; the second axis of the
other one is empty, and padded below zero. -/
theorem slice_undoes_padding_empty_axis :
    (∀ p ∈ [(⟨-1, 2, 2⟩ : Padding), ⟨1, 0, 3⟩], 0 ≤ p.interior) ∧
      (∀ d ∈ ([3, 2] : Shape), 1 ≤ d) ∧
      padEntries [3, 2] [[-1, 2, 2], [1, 0, 3]] = pure [8, 6] ∧
      slice [-1, 1] [6, 6] [3, 4] (some [8, 6]) = pure [3, 2] ∧
      padEntries [3, 0] [[-1, 2, 2], [1, 0, 3]] = pure [8, -2] ∧
      (slice [-1, 1] [6, -2] [3, 4] (some [8, -2])).RejectedAs .slicing .emptySlice
        [("axis", .nat 1), ("start", .int 1), ("limit", .int (-2)), ("stride", .int 4)] := by
  have hinterior : ∀ p ∈ [(⟨-1, 2, 2⟩ : Padding), ⟨1, 0, 3⟩], 0 ≤ p.interior := by decide
  have hlen (dims : Shape) (h : dims.length = 2) :
      [(⟨-1, 2, 2⟩ : Padding), ⟨1, 0, 3⟩].length = dims.length := h.symm
  have hpositive : ∀ d ∈ ([3, 2] : Shape), 1 ≤ d := by decide
  have hpad : (padEntries [3, 2] [[-1, 2, 2], [1, 0, 3]]).result = .ok [8, 6] :=
    Outcome.result_eq_ok_of_answer? (by decide +kernel)
  have hpad' : (padEntries [3, 0] [[-1, 2, 2], [1, 0, 3]]).result = .ok [8, -2] :=
    Outcome.result_eq_ok_of_answer? (by decide +kernel)
  obtain ⟨padded, hpadded, hback, -⟩ := slice_undoes_padding (hlen [3, 2] rfl) hinterior
  obtain rfl : padded = [8, 6] := result_pure_eq_ok.mp (hpadded ▸ hpad)
  obtain ⟨padded, hpadded', -, hempty⟩ := slice_undoes_padding (hlen [3, 0] rfl) hinterior
  obtain rfl : padded = [8, -2] := result_pure_eq_ok.mp (hpadded' ▸ hpad')
  refine ⟨hinterior, hpositive, hpadded, hback hpositive, hpadded',
    hempty 1 (by decide) (by decide) fun j hj => ?_⟩
  obtain rfl := Nat.lt_one_iff.mp hj
  exact (by decide : (1 : ℤ) ≤ 3)

end TensorShape
