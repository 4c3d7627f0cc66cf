import TensorShape.Proofs.Diagnostic.Data
import TensorShape.Proofs.Ending.Operations

/-! # Slices with positive strides

Where all strides are positive a slice is only ever rejected for being empty, and it is exactly if
some axis selects nothing; the first such axis is reported. Otherwise it has the counts of all axes.
-/

namespace TensorShape

open Outcome

variable {slices : List Slice} {s : Slice}

theorem Slice.count_eq_stepsToCover (s : Slice) :
    s.count = stepsToCover (s.limit - s.start) s.stride := by
  rw [count, stepsToCover, Int.neg_sub]

theorem Slice.size_eq_pure (hstride : 0 < s.stride) (hcount : 0 < s.count) (axis : ℕ) :
    s.size axis = pure s.count := by
  rw [size, if_neg (Int.not_le.mpr hstride), if_neg (Int.not_le.mpr hcount)]

theorem Slice.count_pos_of_size {axis : ℕ} {n : ℤ} (h : (s.size axis).result = .ok n) :
    0 < s.count := by
  unfold size at h
  split at h
  · cases h
  · split at h
    · exact absurd h (result_reject_ne_ok _ _)
    · exact Int.not_le.mp ‹_›

theorem Slice.ends_size_of_pos (h : 0 < s.stride) (axis : ℕ) :
    (s.size axis).Ends (Violation.OneOf [.emptySlice]) fun _ => False := by
  rw [size, if_neg (Int.not_le.mpr h)]
  split
  · exact .rejection ⟨rfl, List.mem_singleton_self _⟩
  · exact .answer _

theorem Slice.ofLists_map (slices : List Slice) :
    ofLists (slices.map start) (slices.map limit) (slices.map stride) = slices := by
  induction slices with
  | nil => rfl
  | cons s slices ih => exact congrArg (s :: ·) ih

def Slice.sizes (slices : List Slice) : Outcome Shape :=
  slices.zipIdx.mapM fun entry => entry.1.size entry.2

theorem slice_eq_sizes {dims : Option Shape} (hdims : ∀ d ∈ dims, d.length = slices.length) :
    slice (slices.map Slice.start) (slices.map Slice.limit) (slices.map Slice.stride) dims =
      Slice.sizes slices := by
  have hrank : (dims.getD (slices.map Slice.start)).length = slices.length := by
    cases dims with
    | none => exact List.length_map _
    | some d => exact hdims d rfl
  simp only [slice, hrank, List.length_map, and_self, if_true, Slice.ofLists_map, Slice.sizes]

theorem Slice.sizes_eq_pure (h : ∀ s ∈ slices, 0 < s.stride ∧ 0 < s.count) :
    sizes slices = pure (slices.map count) := by
  have hsize : ∀ entry ∈ slices.zipIdx, entry.1.size entry.2 = pure entry.1.count := by
    intro entry hentry
    obtain ⟨hstride, hcount⟩ := h entry.1 (List.fst_mem_of_mem_zipIdx hentry)
    exact size_eq_pure hstride hcount entry.2
  have hmap : slices.zipIdx.map (fun entry => entry.1.count) = slices.map count := by
    conv_rhs => rw [← List.zipIdx_map_fst 0 slices, List.map_map]
    rfl
  rw [sizes, mapM_eq_pure hsize, hmap]

theorem Slice.ends_sizes_of_pos (h : ∀ s ∈ slices, 0 < s.stride) :
    (sizes slices).Ends (Violation.OneOf [.emptySlice]) fun _ => False :=
  Ends.mapM fun entry hentry =>
    ends_size_of_pos (h entry.1 (List.fst_mem_of_mem_zipIdx hentry)) entry.2

theorem Slice.rejectedAs_size (hstride : 0 < s.stride) (hcount : s.count ≤ 0) (axis : ℕ) :
    (s.size axis).RejectedAs .slicing .emptySlice [("axis", .nat axis), ("start", .int s.start),
      ("limit", .int s.limit), ("stride", .int s.stride)] := by
  rw [size, if_neg (Int.not_le.mpr hstride), if_pos hcount]
  exact Violation.rejectedAs_reject fun _ hm => absurd hm List.not_mem_nil

/-- The first slice that selects nothing is the one that is reported. -/
theorem Slice.rejectedAs_sizes (h : ∀ s ∈ slices, 0 < s.stride) {i : ℕ} (hi : i < slices.length)
    (hbefore : ∀ (j : ℕ) (hj : j < i), 0 < slices[j].count) (hcount : slices[i].count ≤ 0) :
    (sizes slices).RejectedAs .slicing .emptySlice [("axis", .nat i),
      ("start", .int slices[i].start), ("limit", .int slices[i].limit),
      ("stride", .int slices[i].stride)] := by
  obtain ⟨d, hd, htells⟩ := rejectedAs_size (h _ (List.getElem_mem hi)) hcount i
  refine ⟨d, result_mapM_eq_error.mpr ⟨i, by rwa [List.length_zipIdx], ?_, ?_⟩, htells⟩
  · intro j hj
    rw [List.getElem_zipIdx, Nat.zero_add]
    rw [size_eq_pure (h _ (List.getElem_mem _)) (hbefore j hj)]
    exact succeeds_pure _
  · rwa [List.getElem_zipIdx, Nat.zero_add]

theorem Slice.rejectedWith_sizes_iff (h : ∀ s ∈ slices, 0 < s.stride) :
    (sizes slices).RejectedWith .emptySlice ↔ ∃ s ∈ slices, s.count ≤ 0 := by
  constructor
  · intro hreject
    by_contra hnone
    have hpos : ∀ s ∈ slices, 0 < s.stride ∧ 0 < s.count := fun s hs =>
      ⟨h s hs, Int.not_le.mp fun hcount => hnone ⟨s, hs, hcount⟩⟩
    rw [sizes_eq_pure hpos] at hreject
    exact hreject.not_succeeds (succeeds_pure _)
  · rintro ⟨s, hs, hcount⟩
    rcases (ends_sizes_of_pos h).answersOr with ⟨answer, hanswer⟩ | ⟨c, hc, hreject⟩
    · obtain ⟨i, hi, rfl⟩ := List.mem_iff_getElem.mp hs
      have hentry : (slices[i], i) ∈ slices.zipIdx := List.mk_mem_zipIdx_iff_getElem?.mpr (by simp)
      obtain ⟨n, hn⟩ := exists_result_of_mapM hanswer _ hentry
      exact absurd (count_pos_of_size hn) (Int.not_lt.mpr hcount)
    · rwa [← List.mem_singleton.mp hc]

end TensorShape
