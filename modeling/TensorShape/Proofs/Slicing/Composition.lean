import TensorShape.Proofs.Slicing.Selection

/-! # Slices of slices

A slice of the elements that a slice selects is one slice of the axis. It starts where the second
slice starts among the elements of the first one, its stride is the product of both, and it ends
before either of them does: no element that the second slice selects lies behind the limit of the
first one.
-/

namespace TensorShape

open Outcome

namespace Slice

/-- A slice of the elements that a slice selects, as a slice of the axis. -/
def comp (s t : Slice) : Slice :=
  ⟨s.start + t.start * s.stride, min s.limit (s.start + t.limit * s.stride), s.stride * t.stride⟩

variable {s t : Slice} {first second : List Slice}

/-- Where the second slice ends within the first one, the limit of the first one takes no step
away. -/
theorem steps_comp (hs : 0 < s.stride) (hle : t.limit ≤ s.count) :
    (s.comp t).steps = t.steps := by
  ext k
  have hstart : s.start + t.start * s.stride + k * (s.stride * t.stride) =
      s.start + (t.start + k * t.stride) * s.stride := by ring
  simp only [steps, comp, Set.mem_ofPred_eq, lt_min_iff, hstart, ← lt_count_iff hs]
  rw [Int.add_lt_add_iff_left, Int.mul_lt_mul_right hs]
  constructor
  · rintro ⟨hk, -, hlimit⟩
    exact ⟨hk, hlimit⟩
  · rintro ⟨hk, hlimit⟩
    exact ⟨hk, hlimit.trans_le hle, hlimit⟩

theorem Selects.comp (hs : s.Selects) (ht : t.Selects) (hle : t.limit ≤ s.count) :
    (s.comp t).Selects := by
  have hzero : (0 : ℤ) ∈ t.steps := ⟨Int.le_refl 0, by simpa using ht.start_lt⟩
  rw [← steps_comp hs.stride_pos hle] at hzero
  exact ⟨Int.mul_pos hs.stride_pos ht.stride_pos, by simpa using hzero.2⟩

theorem count_comp (hs : s.Selects) (ht : t.Selects) (hle : t.limit ≤ s.count) :
    (s.comp t).count = t.count := by
  rw [← ncard_steps (hs.comp ht hle), steps_comp hs.stride_pos hle, ncard_steps ht]

theorem selects_and_count_zipWith_comp (hfirst : ∀ s ∈ first, s.Selects)
    (hsecond : ∀ t ∈ second, t.Selects)
    (hle : List.Forall₂ (fun t n => t.limit ≤ n) second (first.map count)) :
    (∀ u ∈ List.zipWith comp first second, u.Selects) ∧
      (List.zipWith comp first second).map count = second.map count := by
  rw [List.forall₂_map_right_iff] at hle
  induction hle with
  | nil => simp
  | cons hle _ ih =>
    rw [List.forall_mem_cons] at hfirst hsecond
    obtain ⟨hselects, hcounts⟩ := ih hfirst.2 hsecond.2
    rw [List.zipWith_cons_cons, List.forall_mem_cons, List.map_cons, List.map_cons, hcounts,
      count_comp hfirst.1 hsecond.1 hle]
    exact ⟨⟨hfirst.1.comp hsecond.1 hle, hselects⟩, rfl⟩

end Slice

section Calls

variable {start limit stride start' limit' stride' : List ℤ} {dims dims' : Option Shape}
  {n m : Shape}

theorem ofLists_comp (h : SameRank start limit stride dims)
    (h' : SameRank start' limit' stride' dims') (hrank : start'.length = start.length) :
    Slice.ofLists (List.zipWith (· + ·) start (List.zipWith (· * ·) start' stride))
        (List.zipWith min limit
          (List.zipWith (· + ·) start (List.zipWith (· * ·) limit' stride)))
        (List.zipWith (· * ·) stride stride') =
      List.zipWith Slice.comp (Slice.ofLists start limit stride)
        (Slice.ofLists start' limit' stride') := by
  obtain ⟨hlimit, hstride, -⟩ := h
  obtain ⟨hlimit', hstride', -⟩ := h'
  apply List.ext_getElem
  · simp [Slice.ofLists, hlimit, hstride, hlimit', hstride', hrank]
  · intro i hi hi'
    simp [Slice.ofLists, Slice.comp]

theorem SameRank.map_limit_ofLists (h : SameRank start limit stride dims) :
    (Slice.ofLists start limit stride).map Slice.limit = limit := by
  obtain ⟨hlimit, hstride, -⟩ := h
  apply List.ext_getElem
  · simp [Slice.ofLists, hlimit, hstride]
  · intro i hi hi'
    simp [Slice.ofLists]

theorem SameRank.comp (h : SameRank start limit stride dims)
    (h' : SameRank start' limit' stride' dims') (hrank : start'.length = start.length) :
    SameRank (List.zipWith (· + ·) start (List.zipWith (· * ·) start' stride))
      (List.zipWith min limit (List.zipWith (· + ·) start (List.zipWith (· * ·) limit' stride)))
      (List.zipWith (· * ·) stride stride') dims := by
  obtain ⟨hlimit, hstride, hdims⟩ := h
  obtain ⟨hlimit', hstride', -⟩ := h'
  constructor
  · simp [hlimit, hstride, hlimit', hrank]
  · simp [hstride, hstride', hrank]
  · intro d hd
    simp [hdims d hd, hstride, hrank]

end Calls

/-- Whenever a slice answers, and a slice that ends within its answer along every axis does so too,
wherever that one starts, one slice of the axes answers the same as the second one. -/
theorem slice_of_slice {start limit stride start' limit' stride' : List ℤ}
    {dims dims' : Option Shape} {n m : Shape}
    (hfirst : (slice start limit stride dims).result = .ok n)
    (hsecond : (slice start' limit' stride' dims').result = .ok m)
    (hwithin : List.Forall₂ (· ≤ ·) limit' n) :
    slice (List.zipWith (· + ·) start (List.zipWith (· * ·) start' stride))
        (List.zipWith min limit
          (List.zipWith (· + ·) start (List.zipWith (· * ·) limit' stride)))
        (List.zipWith (· * ·) stride stride') dims =
      pure m := by
  obtain ⟨hrank, hselects, rfl⟩ := result_slice_eq_ok.mp hfirst
  obtain ⟨hrank', hselects', rfl⟩ := result_slice_eq_ok.mp hsecond
  have hlen : start'.length = start.length := by
    rw [← hrank'.limit, hwithin.length_eq, List.length_map, hrank.length_ofLists]
  rw [← hrank'.map_limit_ofLists, List.forall₂_map_left_iff] at hwithin
  obtain ⟨hcomp, hcounts⟩ := Slice.selects_and_count_zipWith_comp hselects hselects' hwithin
  rw [(hrank.comp hrank' hlen).slice_eq_pure (by rwa [ofLists_comp hrank hrank' hlen]),
    ofLists_comp hrank hrank' hlen, hcounts]

/-- Along the first axis the elements are those at 1, 4, 7 and 10, and the second slice takes the
last three of them; the clamped limit is 11 and not 13. Along the other axis the second slice steps
over its limit. -/
theorem slice_of_slice_clamped :
    (slice [1, -3] [11, 9] [3, 2] none).result = .ok [4, 6] ∧
      (slice [1, 0] [4, 5] [1, 3] (some [4, 6])).result = .ok [3, 2] ∧
      List.Forall₂ (· ≤ ·) [4, 5] [(4 : ℤ), 6] ∧
      slice [4, -3] [11, 7] [3, 6] none = pure [3, 2] := by
  have hfirst : (slice [1, -3] [11, 9] [3, 2] none).result = .ok [4, 6] :=
    Outcome.result_eq_ok_of_answer? (by decide +kernel)
  have hsecond : (slice [1, 0] [4, 5] [1, 3] (some [4, 6])).result = .ok [3, 2] :=
    Outcome.result_eq_ok_of_answer? (by decide +kernel)
  have hwithin : List.Forall₂ (· ≤ ·) [4, 5] [(4 : ℤ), 6] := by decide
  exact ⟨hfirst, hsecond, hwithin, slice_of_slice hfirst hsecond hwithin⟩

end TensorShape
