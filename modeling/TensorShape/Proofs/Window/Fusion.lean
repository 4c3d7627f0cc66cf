import TensorShape.Proofs.Window.Stacking

/-! # Windows along the positions of a window

A window that slides along the positions of another one has the positions of one window along the
axis. A window that does not fit counts one position all the same, and the next one cannot tell by
how much the first one was too long. It need not: no window has more than one position along an axis
of one element, or of fewer.
-/

namespace TensorShape

theorem forall_mem_zipWith {α β γ : Type} {f : α → β → γ} {P : α → Prop} {Q : β → Prop}
    {R : γ → Prop} {xs : List α} {ys : List β} (hxs : ∀ x ∈ xs, P x) (hys : ∀ y ∈ ys, Q y)
    (hf : ∀ x y, P x → Q y → R (f x y)) : ∀ z ∈ List.zipWith f xs ys, R z := by
  rw [← List.map_uncurry_zip_eq_zipWith, List.forall_mem_map]
  intro pair hpair
  obtain ⟨hx, hy⟩ := List.of_mem_zip hpair
  exact hf _ _ (hxs _ hx) (hys _ hy)

section Axis

variable {dim extent stride extent' stride' : ℤ}

theorem positions_le_one (hextent : 0 < extent) (hstride : 0 < stride) (h : dim ≤ 1) :
    positions dim extent stride ≤ 1 := by
  by_contra hlt
  have htwo : 2 ≤ positions dim extent stride := Int.not_le.mp hlt
  rw [le_positions_iff hstride] at htwo
  omega

theorem max_positions_max_one (hextent : 0 < extent) (hstride : 0 < stride) (dim : ℤ) :
    max (positions (max dim 1) extent stride) 1 = max (positions dim extent stride) 1 := by
  rcases le_total 1 dim with hle | hle
  · rw [max_eq_left hle]
  · rw [max_eq_right hle, max_eq_right (positions_le_one hextent hstride hle),
      max_eq_right (positions_le_one hextent hstride (Int.le_refl 1))]

theorem max_positions_max_positions (hstride : 0 < stride) (hextent' : 0 < extent')
    (hstride' : 0 < stride') :
    max (positions (max (positions dim extent stride) 1) extent' stride') 1 =
      max (positions dim (extent + (extent' - 1) * stride) (stride * stride')) 1 := by
  -- Without the clamps the two windows are one for every size, negative ones included.
  have hnested : positions (positions dim extent stride) extent' stride' =
      positions dim (extent + (extent' - 1) * stride) (stride * stride') := by
    simpa using positions_positions hstride hstride' 0
  rw [max_positions_max_one hextent' hstride', hnested]

end Axis

structure IsWindow (dims extents strides : List ℤ) : Prop where
  length_extents : extents.length = dims.length
  length_strides : strides.length = dims.length
  extents_pos : ∀ e ∈ extents, 0 < e
  strides_pos : ∀ s ∈ strides, 0 < s

def clampedPositions (dims extents strides : List ℤ) : Shape :=
  (windowAxes dims extents strides).map fun (dim, extent, stride) =>
    max (positions dim extent stride) 1

namespace IsWindow

variable {dims extents strides extents' strides' : List ℤ}

theorem windowPositions_eq_pure (h : IsWindow dims extents strides) :
    windowPositions dims extents strides = pure (clampedPositions dims extents strides) :=
  TensorShape.windowPositions_eq_pure h.length_extents h.length_strides h.extents_pos h.strides_pos

theorem length_clampedPositions (h : IsWindow dims extents strides) :
    (clampedPositions dims extents strides).length = dims.length := by
  rw [clampedPositions, List.length_map, length_windowAxes h.length_extents h.length_strides]

theorem congr_rank {dims' : Shape} (h : IsWindow dims extents strides)
    (hlen : dims'.length = dims.length) : IsWindow dims' extents strides :=
  ⟨hlen ▸ h.length_extents, hlen ▸ h.length_strides, h.extents_pos, h.strides_pos⟩

theorem stacked (h : IsWindow dims extents strides) (h' : IsWindow dims extents' strides') :
    IsWindow dims (stackedExtents extents strides extents')
      (List.zipWith (· * ·) strides strides') := by
  obtain ⟨hextents, hstrides, hextent, hstride⟩ := h
  obtain ⟨hextents', hstrides', hextent', hstride'⟩ := h'
  refine ⟨?_, ?_, ?_, ?_⟩
  · rw [length_stackedExtents (hstrides.trans hextents.symm) (hextents'.trans hextents.symm),
      hextents]
  · rw [List.length_zipWith, hstrides, hstrides', Nat.min_self]
  · have hmore : ∀ m ∈ List.zipWith (fun stride other => (other - 1) * stride) strides extents',
        0 ≤ m :=
      forall_mem_zipWith hstride hextent' fun s e hs he =>
        Int.mul_nonneg (Int.sub_nonneg_of_le he) hs.le
    exact forall_mem_zipWith hextent hmore fun e m he hm => Int.add_pos_of_pos_of_nonneg he hm
  · exact forall_mem_zipWith hstride hstride' fun s s' => Int.mul_pos

/-- Axis by axis, the inner clamp does not show through the outer one. -/
theorem clampedPositions_clampedPositions (h : IsWindow dims extents strides)
    (h' : IsWindow dims extents' strides') :
    clampedPositions (clampedPositions dims extents strides) extents' strides' =
      clampedPositions dims (stackedExtents extents strides extents')
        (List.zipWith (· * ·) strides strides') := by
  obtain ⟨hextents, hstrides, -, hstride⟩ := h
  obtain ⟨hextents', hstrides', hextent', hstride'⟩ := h'
  apply List.ext_getElem
  · simp [clampedPositions, windowAxes, stackedExtents, *]
  · intro i hi hi'
    simp only [clampedPositions, windowAxes, stackedExtents, List.getElem_map, List.getElem_zip,
      List.getElem_zipWith]
    exact max_positions_max_positions (hstride _ (List.getElem_mem _))
      (hextent' _ (List.getElem_mem _)) (hstride' _ (List.getElem_mem _))

end IsWindow

/-- Two windows in a row count what one window counts, whose extent and stride take the strides of
the first one for steps of the second one, and none of the three is rejected. -/
theorem windowPositions_fused {dims extents strides extents' strides' : List ℤ}
    (h : IsWindow dims extents strides) (h' : IsWindow dims extents' strides') :
    ∃ between r, windowPositions dims extents strides = pure between ∧
      windowPositions between extents' strides' = pure r ∧
      windowPositions dims (stackedExtents extents strides extents')
        (List.zipWith (· * ·) strides strides') = pure r := by
  have hbetween := h'.congr_rank h.length_clampedPositions
  refine ⟨_, _, h.windowPositions_eq_pure, hbetween.windowPositions_eq_pure, ?_⟩
  rw [(h.stacked h').windowPositions_eq_pure, h.clampedPositions_clampedPositions h']

/-- The first window fits along the first axis only: along the second one it is too long by five
elements, and the third axis is of a negative size. -/
theorem windowPositions_fused_too_long :
    IsWindow [20, 4, -3] [3, 9, 2] [2, 4, 1] ∧ IsWindow [20, 4, -3] [2, 3, 1] [3, 1, 2] ∧
      windowPositions [20, 4, -3] [3, 9, 2] [2, 4, 1] = pure [9, 1, 1] ∧
      windowPositions [9, 1, 1] [2, 3, 1] [3, 1, 2] = pure [3, 1, 1] ∧
      windowPositions [20, 4, -3] [5, 17, 2] [6, 4, 2] = pure [3, 1, 1] := by
  have h : IsWindow [20, 4, -3] [3, 9, 2] [2, 4, 1] := by constructor <;> decide
  have h' : IsWindow [20, 4, -3] [2, 3, 1] [3, 1, 2] := by constructor <;> decide
  have hfirst : (windowPositions [20, 4, -3] [3, 9, 2] [2, 4, 1]).result = .ok [9, 1, 1] :=
    Outcome.result_eq_ok_of_answer? (by decide +kernel)
  have hsecond : (windowPositions [9, 1, 1] [2, 3, 1] [3, 1, 2]).result = .ok [3, 1, 1] :=
    Outcome.result_eq_ok_of_answer? (by decide +kernel)
  obtain ⟨between, r, hbetween, hr, hfused⟩ := windowPositions_fused h h'
  obtain rfl := Outcome.result_pure_eq_ok.mp (hbetween ▸ hfirst)
  obtain rfl := Outcome.result_pure_eq_ok.mp (hr ▸ hsecond)
  exact ⟨h, h', hbetween, hr, hfused⟩

end TensorShape
