import TensorShape.Proofs.Ending.Complaint
import TensorShape.Proofs.Slicing

/-! # What a slice selects

A slice has as many elements along an axis as there are steps after which it still stands before its
limit. A call on bounds and strides of one rank answers these numbers, and it fails for the first
axis along which the stride does not step forward or nothing is selected. The sizes of the sliced
shape are never looked at.
-/

namespace TensorShape

open Outcome

namespace Slice

/-- The steps after which a slice stands before its limit. -/
def steps (s : Slice) : Set ℤ := {k | 0 ≤ k ∧ s.start + k * s.stride < s.limit}

/-- The slice steps forward, and selects its start at least. -/
structure Selects (s : Slice) : Prop where
  stride_pos : 0 < s.stride
  start_lt : s.start < s.limit

instance (s : Slice) : Decidable s.Selects :=
  decidable_of_iff (0 < s.stride ∧ s.start < s.limit)
    ⟨fun h => ⟨h.1, h.2⟩, fun h => ⟨h.stride_pos, h.start_lt⟩⟩

variable {s : Slice} {slices : List Slice} {k : ℕ} {c : Complaint}

theorem lt_count_iff (h : 0 < s.stride) {n : ℤ} :
    n < s.count ↔ s.start + n * s.stride < s.limit := by
  have hle : s.count ≤ n ↔ s.limit - s.start ≤ n * s.stride := by
    rw [count_eq_stepsToCover, stepsToCover_le_iff h]
  omega

theorem count_pos_iff (h : 0 < s.stride) : 0 < s.count ↔ s.start < s.limit := by
  rw [lt_count_iff h, Int.zero_mul, Int.add_zero]

theorem Selects.count_pos (h : s.Selects) : 0 < s.count :=
  (count_pos_iff h.stride_pos).mpr h.start_lt

theorem Selects.size_eq_pure (h : s.Selects) (axis : ℕ) : s.size axis = pure s.count :=
  Slice.size_eq_pure h.stride_pos h.count_pos axis

theorem ncard_steps (h : s.Selects) : (s.steps.ncard : ℤ) = s.count := by
  have hcount : s.count = positions (s.limit - s.start) 1 s.stride := by
    rw [count_eq_stepsToCover, ← stepsToCover_sub_add_one h.stride_pos, Int.sub_add_cancel]
  have hsteps : s.steps = {k : ℤ | 0 ≤ k ∧ k * s.stride + 1 ≤ s.limit - s.start} := by
    ext k
    simp only [steps, Set.mem_ofPred_eq]
    omega
  rw [hsteps, hcount]
  exact ncard_positions h.stride_pos (hcount ▸ h.count_pos.le)

theorem failsAs_size (hstride : 0 < s.stride) (h : s.limit ≤ s.start) (axis : ℕ) :
    (s.size axis).FailsAs (.rejection .slicing .emptySlice [("axis", .nat axis),
      ("start", .int s.start), ("limit", .int s.limit), ("stride", .int s.stride)]) :=
  rejectedAs_size hstride (Int.not_lt.mp (mt (count_pos_iff hstride).mp (Int.not_lt.mpr h))) axis

theorem size_eq_fault (h : s.stride ≤ 0) (axis : ℕ) :
    s.size axis = .fault (.nonPositiveStride s.stride axis) := if_pos h

theorem selects_of_size {axis : ℕ} {n : ℤ} (h : (s.size axis).result = .ok n) : s.Selects := by
  have hstride : 0 < s.stride := by
    by_contra hnot
    rw [size_eq_fault (Int.not_lt.mp hnot)] at h
    cases h
  exact ⟨hstride, (count_pos_iff hstride).mp (count_pos_of_size h)⟩

theorem failsAs_sizes (hat : slices[k]? = some s) (h : (s.size k).FailsAs c)
    (hbefore : ∀ m < k, ∀ t, slices[m]? = some t → t.Selects) : (sizes slices).FailsAs c := by
  have hentry (m : ℕ) : slices.zipIdx[m]? = slices[m]?.map fun t => (t, m) := by
    rw [List.getElem?_zipIdx, Nat.zero_add]
  refine FailsAs.mapM (x := (s, k)) (by rw [hentry, hat]; rfl) h fun m hm entry hentry' => ?_
  obtain ⟨t, ht, rfl⟩ := Option.map_eq_some_iff.mp ((hentry m).symm.trans hentry')
  exact (hbefore m hm t ht).size_eq_pure m ▸ succeeds_pure _

end Slice

/-- The bounds and strides have one entry for each axis, and so has the shape where it is given. -/
structure SameRank (start limit stride : List ℤ) (dims : Option Shape) : Prop where
  limit : limit.length = start.length
  stride : stride.length = start.length
  dims : ∀ d ∈ dims, d.length = start.length

structure SliceAt (start limit stride : List ℤ) (k : ℕ) (s : Slice) : Prop where
  start : start[k]? = some s.start
  limit : limit[k]? = some s.limit
  stride : stride[k]? = some s.stride

/-- The first axis along which the slice does not step forward or selects nothing. -/
structure FirstUnselecting (start limit stride : List ℤ) (k : ℕ) (s : Slice) : Prop where
  sliceAt : SliceAt start limit stride k s
  not_selects : ¬ s.Selects
  before : ∀ m < k, ∀ t, SliceAt start limit stride m t → t.Selects

variable {start limit stride : List ℤ} {dims : Option Shape} {n : Shape}

section Calls

variable {s t : Slice} {k : ℕ}

theorem getElem?_ofLists_eq_some :
    (Slice.ofLists start limit stride)[k]? = some s ↔ SliceAt start limit stride k s := by
  simp only [Slice.ofLists, List.getElem?_zipWith_eq_some, List.getElem?_zip_eq_some]
  constructor
  · rintro ⟨first, rest, hstart, ⟨hlimit, hstride⟩, rfl⟩
    exact ⟨hstart, hlimit, hstride⟩
  · rintro ⟨hstart, hlimit, hstride⟩
    exact ⟨_, (s.limit, s.stride), hstart, ⟨hlimit, hstride⟩, rfl⟩

theorem SliceAt.unique (h : SliceAt start limit stride k s) (h' : SliceAt start limit stride k t) :
    s = t :=
  Option.some.inj
    ((getElem?_ofLists_eq_some.mpr h).symm.trans (getElem?_ofLists_eq_some.mpr h'))

theorem sameRank_iff : SameRank start limit stride dims ↔
    start.length = (dims.getD start).length ∧ limit.length = (dims.getD start).length ∧
      stride.length = (dims.getD start).length := by
  constructor
  · rintro ⟨hlimit, hstride, hdims⟩
    have hrank : (dims.getD start).length = start.length := by
      cases dims with
      | none => rfl
      | some d => exact hdims d rfl
    rw [hrank]
    exact ⟨rfl, hlimit, hstride⟩
  · rintro ⟨hstart, hlimit, hstride⟩
    refine ⟨hlimit.trans hstart.symm, hstride.trans hstart.symm, ?_⟩
    rintro d rfl
    exact hstart.symm

theorem SameRank.slice_eq_sizes (h : SameRank start limit stride dims) :
    slice start limit stride dims = Slice.sizes (Slice.ofLists start limit stride) :=
  if_pos (sameRank_iff.mp h)

theorem SameRank.length_ofLists (h : SameRank start limit stride dims) :
    (Slice.ofLists start limit stride).length = start.length := by
  rw [Slice.ofLists, List.length_zipWith, List.length_zip, h.limit, h.stride, Nat.min_self,
    Nat.min_self]

theorem rejectedWith_slice (h : ¬ SameRank start limit stride dims) :
    (slice start limit stride dims).RejectedWith .rankMismatch := by
  rw [slice, if_neg (mt sameRank_iff.mpr h)]
  exact (Violation.failsAs_reject_of_unquoted rfl).rejectedWith rfl

theorem forall_selects_of_not_exists (h : ¬ ∃ k s, FirstUnselecting start limit stride k s) :
    ∀ s ∈ Slice.ofLists start limit stride, s.Selects := by
  by_contra hnot
  simp only [not_forall, exists_prop] at hnot
  obtain ⟨k, s, hat, hs, hbefore⟩ := exists_first_not hnot
  refine h ⟨k, s, getElem?_ofLists_eq_some.mp hat, hs, fun m hm t ht => ?_⟩
  exact hbefore m hm t (getElem?_ofLists_eq_some.mpr ht)

theorem FirstUnselecting.failsAs (h : SameRank start limit stride dims)
    (hfirst : FirstUnselecting start limit stride k s) {c : Complaint}
    (hfails : (s.size k).FailsAs c) : (slice start limit stride dims).FailsAs c := by
  rw [h.slice_eq_sizes]
  refine Slice.failsAs_sizes (getElem?_ofLists_eq_some.mpr hfirst.sliceAt) hfails ?_
  exact fun m hm t ht => hfirst.before m hm t (getElem?_ofLists_eq_some.mp ht)

theorem FirstUnselecting.slice_eq_fault (h : SameRank start limit stride dims)
    (hfirst : FirstUnselecting start limit stride k s) (hstride : s.stride ≤ 0) :
    slice start limit stride dims = .fault (.nonPositiveStride s.stride k) := by
  -- A fault as the result says nothing of records; that a slice faults without any is `ends_slice`.
  have hfault : (slice start limit stride dims).FailsAs
      (.fault (.nonPositiveStride s.stride k)) :=
    hfirst.failsAs h (c := .fault _) (congrArg Outcome.result (Slice.size_eq_fault hstride k))
  exact (ends_slice (P := fun _ => True) start limit stride dims).eq_fault hfault
    fun _ => Fault.noConfusion

theorem SameRank.slice_eq_pure (h : SameRank start limit stride dims)
    (hselects : ∀ s ∈ Slice.ofLists start limit stride, s.Selects) :
    slice start limit stride dims = pure ((Slice.ofLists start limit stride).map Slice.count) := by
  rw [h.slice_eq_sizes]
  exact Slice.sizes_eq_pure fun s hs => ⟨(hselects s hs).stride_pos, (hselects s hs).count_pos⟩

/-- A slice answers exactly if it has one rank and selects something along every axis. -/
theorem result_slice_eq_ok :
    (slice start limit stride dims).result = .ok n ↔ SameRank start limit stride dims ∧
      (∀ s ∈ Slice.ofLists start limit stride, s.Selects) ∧
        (Slice.ofLists start limit stride).map Slice.count = n := by
  constructor
  · intro hresult
    have hrank : SameRank start limit stride dims := by
      by_contra hnot
      exact (rejectedWith_slice hnot).not_succeeds ⟨n, hresult⟩
    have hselects : ∀ s ∈ Slice.ofLists start limit stride, s.Selects := by
      intro s hs
      rw [hrank.slice_eq_sizes] at hresult
      obtain ⟨k, hat⟩ := List.mem_iff_getElem?.mp hs
      obtain ⟨size, hsize⟩ :=
        exists_result_of_mapM hresult (s, k) (List.mk_mem_zipIdx_iff_getElem?.mpr hat)
      exact Slice.selects_of_size hsize
    rw [hrank.slice_eq_pure hselects, result_pure_eq_ok] at hresult
    exact ⟨hrank, hselects, hresult⟩
  · rintro ⟨hrank, hselects, rfl⟩
    rw [hrank.slice_eq_pure hselects, result_pure]

theorem slice_congr_rank {d d' : Shape} (h : d.length = d'.length) :
    slice start limit stride (some d) = slice start limit stride (some d') := by
  simp only [slice, Option.getD_some, h]

end Calls

/-- A slice whose bounds and strides are not of one rank is rejected. Otherwise the first axis that
selects nothing decides: it faults, without a record, if its stride does not step forward, and is
reported as empty if it does. Without such an axis the answer is the number of steps along each
axis, at least one. The dimensions of the sliced shape do not matter. -/
theorem slice_counts_steps_or_tells_first_flaw (start limit stride : List ℤ)
    (dims : Option Shape) :
    let sliced := slice start limit stride dims
    (¬ SameRank start limit stride dims → sliced.RejectedWith .rankMismatch) ∧
    (SameRank start limit stride dims →
      (∀ k s, FirstUnselecting start limit stride k s →
        (s.stride ≤ 0 →
          sliced = .fault (.nonPositiveStride s.stride k) ∧ sliced.FaultsWith .value) ∧
        (0 < s.stride → sliced.FailsAs (.rejection .slicing .emptySlice [("axis", .nat k),
          ("start", .int s.start), ("limit", .int s.limit), ("stride", .int s.stride)]))) ∧
      ((¬ ∃ k s, FirstUnselecting start limit stride k s) →
        ∃ counts, sliced = pure counts ∧ counts.length = start.length ∧
          ∀ k s, SliceAt start limit stride k s →
            ∃ n, counts[k]? = some n ∧ n = s.steps.ncard ∧ 1 ≤ n)) ∧
    ∀ d d' : Shape, d.length = d'.length →
      slice start limit stride (some d) = slice start limit stride (some d') := by
  intro sliced
  refine ⟨rejectedWith_slice, fun hrank => ⟨fun k s hfirst => ⟨fun hstride => ?_,
    fun hstride => ?_⟩, fun hselects => ?_⟩, fun d d' => slice_congr_rank⟩
  · have hfault : sliced = _ := hfirst.slice_eq_fault hrank hstride
    refine ⟨hfault, ?_⟩
    rw [hfault]
    exact faultsWith_fault.mpr rfl
  · have hempty : s.limit ≤ s.start := by
      by_contra hlt
      exact hfirst.not_selects ⟨hstride, Int.not_le.mp hlt⟩
    exact hfirst.failsAs hrank (Slice.failsAs_size hstride hempty k)
  · have hall := forall_selects_of_not_exists hselects
    refine ⟨_, hrank.slice_eq_pure hall, ?_, fun k s hat => ?_⟩
    · rw [List.length_map, hrank.length_ofLists]
    · have hentry := getElem?_ofLists_eq_some.mpr hat
      have hs := hall s (List.mem_of_getElem? hentry)
      refine ⟨s.count, ?_, (Slice.ncard_steps hs).symm, hs.count_pos⟩
      rw [List.getElem?_map, hentry, Option.map_some]

/-- The first two slices have a stride of zero and an empty axis each, in either order. In the third
one the last step passes the limit along both axes. -/
theorem slice_counts_steps_or_tells_first_flaw_either_order :
    (SameRank [0, 5, 2] [7, 5, 9] [3, 2, 0] (some [1, 1, 1]) ∧
      FirstUnselecting [0, 5, 2] [7, 5, 9] [3, 2, 0] 1 ⟨5, 5, 2⟩ ∧
      (slice [0, 5, 2] [7, 5, 9] [3, 2, 0] (some [1, 1, 1])).FailsAs
        (.rejection .slicing .emptySlice
          [("axis", .nat 1), ("start", .int 5), ("limit", .int 5), ("stride", .int 2)])) ∧
    (FirstUnselecting [0, 2, 5] [7, 9, 5] [3, 0, 2] 1 ⟨2, 9, 0⟩ ∧
      slice [0, 2, 5] [7, 9, 5] [3, 0, 2] none = .fault (.nonPositiveStride 0 1)) ∧
    ((¬ ∃ k s, FirstUnselecting [-1, 2] [6, 9] [3, 4] k s) ∧
      slice [-1, 2] [6, 9] [3, 4] none = pure [3, 2] ∧
        (3 : ℤ) = (Slice.mk (-1) 6 3).steps.ncard) ∧
    (¬ SameRank [0, 5] [7] [3, 0] none ∧
      (slice [0, 5] [7] [3, 0] none).RejectedWith .rankMismatch) := by
  have hempty : FirstUnselecting [0, 5, 2] [7, 5, 9] [3, 2, 0] 1 ⟨5, 5, 2⟩ := by
    refine ⟨⟨rfl, rfl, rfl⟩, by decide, fun m hm t ht => ?_⟩
    obtain rfl := Nat.lt_one_iff.mp hm
    obtain rfl := ht.unique (t := ⟨0, 7, 3⟩) ⟨rfl, rfl, rfl⟩
    decide
  have hzero : FirstUnselecting [0, 2, 5] [7, 9, 5] [3, 0, 2] 1 ⟨2, 9, 0⟩ := by
    refine ⟨⟨rfl, rfl, rfl⟩, by decide, fun m hm t ht => ?_⟩
    obtain rfl := Nat.lt_one_iff.mp hm
    obtain rfl := ht.unique (t := ⟨0, 7, 3⟩) ⟨rfl, rfl, rfl⟩
    decide
  have hrank : SameRank [0, 5, 2] [7, 5, 9] [3, 2, 0] (some [1, 1, 1]) :=
    sameRank_iff.mpr (by decide)
  have hall : ∀ s ∈ Slice.ofLists [-1, 2] [6, 9] [3, 4], s.Selects := by decide
  have hselects : ¬ ∃ k s, FirstUnselecting [-1, 2] [6, 9] [3, 4] k s := by
    rintro ⟨k, s, hat, hs, -⟩
    exact hs (hall s (List.mem_of_getElem? (getElem?_ofLists_eq_some.mpr hat)))
  have hranks : ¬ SameRank [0, 5] [7] [3, 0] none := mt sameRank_iff.mp (by decide)
  have hcounts : (slice [-1, 2] [6, 9] [3, 4] none).result = .ok [3, 2] :=
    Outcome.result_eq_ok_of_answer? (by decide +kernel)
  obtain ⟨-, hfirst, -⟩ :=
    slice_counts_steps_or_tells_first_flaw [0, 5, 2] [7, 5, 9] [3, 2, 0] (some [1, 1, 1])
  obtain ⟨-, hfirst', -⟩ :=
    slice_counts_steps_or_tells_first_flaw [0, 2, 5] [7, 9, 5] [3, 0, 2] none
  obtain ⟨-, hanswer, -⟩ := slice_counts_steps_or_tells_first_flaw [-1, 2] [6, 9] [3, 4] none
  obtain ⟨hrejected, -⟩ := slice_counts_steps_or_tells_first_flaw [0, 5] [7] [3, 0] none
  obtain ⟨counts, hpure, -, hsteps⟩ := (hanswer (sameRank_iff.mpr (by decide))).2 hselects
  obtain rfl := result_pure_eq_ok.mp (hpure ▸ hcounts)
  obtain ⟨n, hn, hcard, -⟩ := hsteps 0 ⟨-1, 6, 3⟩ ⟨rfl, rfl, rfl⟩
  obtain rfl : (3 : ℤ) = n := Option.some.inj hn
  have hfaults := (hfirst' (sameRank_iff.mpr (by decide))).1 1 ⟨2, 9, 0⟩ hzero
  exact ⟨⟨hrank, hempty, ((hfirst hrank).1 1 _ hempty).2 (by decide)⟩,
    ⟨hzero, (hfaults.1 (by decide)).1⟩, ⟨hselects, hpure, hcard⟩, hranks, hrejected hranks⟩

end TensorShape
