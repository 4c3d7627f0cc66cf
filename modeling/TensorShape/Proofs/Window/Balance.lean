import Mathlib.Data.List.Forall2
import TensorShape.Proofs.Convolution

/-! # The least balanced padding

The padding that keeps as many positions as the stride goes into an axis is the least one and is
balanced. A convolution of the axis so padded has exactly that many positions, and so has a sliding
window, except that it never has fewer than one.
-/

namespace TensorShape

/-- The padding is the same at both edges, up to one element at the end, and in total the least one
with which a window has as many positions as the stride goes into the axis, rounded up. -/
structure LeastBalanced (dim extent stride : ℤ) (p : EdgePadding) : Prop where
  low_nonneg : 0 ≤ p.low
  low_le_high : p.low ≤ p.high
  high_le : p.high ≤ p.low + 1
  isLeast : IsLeast {t : ℤ | 0 ≤ t ∧
    ⌈(dim : ℚ) / stride⌉ ≤ ⌊((dim + t - extent : ℤ) : ℚ) / stride⌋ + 1} (p.low + p.high)

variable {dims extents strides : List ℤ}

theorem leastBalanced_balanced {dim extent stride : ℤ} (h : 0 < stride) :
    LeastBalanced dim extent stride (.balanced (missingElements dim extent stride)) := by
  obtain ⟨hlow, hle, hhigh⟩ :=
    EdgePadding.balanced_halves (missingElements_nonneg dim extent stride)
  refine ⟨hlow, hle, hhigh, ?_⟩
  rw [EdgePadding.low_add_high_balanced]
  simpa only [stepsToCover_eq_ceil h, positions_eq_floor h] using isLeast_missingElements h

theorem windowAxes_padEdges (f : ℤ × ℤ × ℤ → EdgePadding) (hextents : extents.length = dims.length)
    (hstrides : strides.length = dims.length) :
    windowAxes (padEdges dims ((windowAxes dims extents strides).map f)) extents strides =
      (windowAxes dims extents strides).map fun axis =>
        (axis.1 + (f axis).low + (f axis).high, axis.2) := by
  induction dims generalizing extents strides with
  | nil => rfl
  | cons dim dims ih =>
    obtain ⟨extent, extents, rfl⟩ := List.exists_cons_of_length_eq_add_one hextents
    obtain ⟨stride, strides, rfl⟩ := List.exists_cons_of_length_eq_add_one hstrides
    rw [windowAxes_cons, List.map_cons, List.map_cons, padEdges, List.zipWith_cons_cons,
      windowAxes_cons]
    exact congrArg _ (ih (Nat.succ.inj hextents) (Nat.succ.inj hstrides))

theorem map_windowAxes_eq_zipWith {α : Type} (f : ℤ → ℤ → α)
    (hextents : extents.length = dims.length) (hstrides : strides.length = dims.length) :
    (windowAxes dims extents strides).map (fun axis => f axis.1 axis.2.2) =
      List.zipWith f dims strides := by
  induction dims generalizing extents strides with
  | nil => rfl
  | cons dim dims ih =>
    obtain ⟨extent, extents, rfl⟩ := List.exists_cons_of_length_eq_add_one hextents
    obtain ⟨stride, strides, rfl⟩ := List.exists_cons_of_length_eq_add_one hstrides
    rw [windowAxes_cons, List.map_cons, List.zipWith_cons_cons,
      ih (Nat.succ.inj hextents) (Nat.succ.inj hstrides)]

def leastPadding (dims extents strides : List ℤ) : List EdgePadding :=
  (windowAxes dims extents strides).map fun (dim, extent, stride) =>
    .balanced (missingElements dim extent stride)

theorem length_leastPadding (hextents : extents.length = dims.length)
    (hstrides : strides.length = dims.length) :
    (leastPadding dims extents strides).length = dims.length := by
  rw [leastPadding, List.length_map, length_windowAxes hextents hstrides]

section Accepted

variable (hextents : (checkEntries .extent dims extents).result = .ok ())
  (hstrides : (checkEntries .stride dims strides).result = .ok ())

include hextents hstrides in
theorem pos_of_mem_windowAxes {axis : ℤ × ℤ × ℤ} (h : axis ∈ windowAxes dims extents strides) :
    0 < axis.2.1 ∧ 0 < axis.2.2 := by
  have hmem := List.of_mem_zip (List.of_mem_zip h).2
  exact ⟨(result_checkEntries_eq_ok.mp hextents).2 _ hmem.1,
    (result_checkEntries_eq_ok.mp hstrides).2 _ hmem.2⟩

include hextents hstrides in
theorem balancedPadding_eq_pure :
    balancedPadding dims extents (some strides) = pure (leastPadding dims extents strides) := by
  simp only [balancedPadding, checkEntries_eq_pure hextents, checkEntries_eq_pure hstrides,
    pure_bind]
  rfl

include hextents hstrides in
theorem forall₂_leastBalanced :
    List.Forall₂ (fun (dim, extent, stride) => LeastBalanced dim extent stride)
      (windowAxes dims extents strides) (leastPadding dims extents strides) := by
  rw [leastPadding, List.forall₂_map_right_iff, List.forall₂_same]
  intro axis haxis
  exact leastBalanced_balanced (pos_of_mem_windowAxes hextents hstrides haxis).2

include hextents hstrides in
theorem map_positions_padEdges (f : ℤ → ℤ) :
    (windowAxes (padEdges dims (leastPadding dims extents strides)) extents strides).map
        (fun (dim, extent, stride) => f (positions dim extent stride)) =
      List.zipWith (fun dim stride : ℤ => f ⌈(dim : ℚ) / stride⌉) dims strides := by
  have hextents' := (result_checkEntries_eq_ok.mp hextents).1
  have hstrides' := (result_checkEntries_eq_ok.mp hstrides).1
  rw [leastPadding, windowAxes_padEdges _ hextents' hstrides', List.map_map,
    ← map_windowAxes_eq_zipWith _ hextents' hstrides']
  refine List.map_congr_left fun axis haxis => ?_
  obtain ⟨hextent, hstride⟩ := pos_of_mem_windowAxes hextents hstrides haxis
  simp only [Function.comp_apply, Int.add_assoc, EdgePadding.low_add_high_balanced]
  rw [positions_add_missingElements hextent hstride, stepsToCover_eq_ceil hstride]

include hextents hstrides in
theorem convolve_leastPadding {batch channels out inputs : ℤ} {names : GivenNames}
    {given : List AxisName}
    (hnames : (names.assign (batch :: channels :: dims)).result = .ok given) :
    convolve (batch :: channels :: dims) names (out :: inputs :: extents) strides
        ((leastPadding dims extents strides).map fun p => [p.low, p.high]) =
      pure ⟨batch :: out :: List.zipWith (fun dim stride : ℤ => ⌈(dim : ℚ) / stride⌉) dims strides,
        given⟩ := by
  obtain ⟨hextents', -⟩ := result_checkEntries_eq_ok.mp hextents
  obtain ⟨hstrides', hpos⟩ := result_checkEntries_eq_ok.mp hstrides
  have hpadding := length_leastPadding hextents' hstrides'
  rw [convolve_eq_pure hnames hextents' hstrides' hpadding fun s hs => (hpos s hs).ne']
  exact congrArg (fun spatial => pure (⟨batch :: out :: spatial, given⟩ : NamedShape))
    (map_positions_padEdges hextents hstrides id)

include hextents hstrides in
theorem windowPositions_leastPadding :
    windowPositions (padEdges dims (leastPadding dims extents strides)) extents strides =
      pure (List.zipWith (fun dim stride : ℤ => max ⌈(dim : ℚ) / stride⌉ 1) dims strides) := by
  obtain ⟨hextents', hpos⟩ := result_checkEntries_eq_ok.mp hextents
  obtain ⟨hstrides', hpos'⟩ := result_checkEntries_eq_ok.mp hstrides
  have hlen := length_padEdges (length_leastPadding hextents' hstrides')
  rw [windowPositions_eq_pure (hextents'.trans hlen.symm) (hstrides'.trans hlen.symm) hpos hpos']
  exact congrArg pure (map_positions_padEdges hextents hstrides fun n => max n 1)

end Accepted

theorem result_checkEntries_ones (dims : Shape) :
    (checkEntries .stride dims (List.replicate dims.length 1)).result = .ok () :=
  result_checkEntries_eq_ok.mpr ⟨List.length_replicate, fun e he => by
    rw [List.eq_of_mem_replicate he]
    exact Int.one_pos⟩

theorem balancedPadding_none (dims extents : List ℤ) :
    balancedPadding dims extents none =
      balancedPadding dims extents (some (List.replicate dims.length 1)) := by
  simp only [balancedPadding, checkEntries_eq_pure (result_checkEntries_ones dims), pure_bind]

theorem forall₂_total_ones (hextents : (checkEntries .extent dims extents).result = .ok ()) :
    List.Forall₂ (fun extent p => p.low + p.high = extent - 1) extents
      (leastPadding dims extents (List.replicate dims.length 1)) := by
  obtain ⟨hlen, hpos⟩ := result_checkEntries_eq_ok.mp hextents
  clear hextents
  induction dims generalizing extents with
  | nil =>
    obtain rfl := List.length_eq_zero_iff.mp hlen
    exact List.Forall₂.nil
  | cons dim dims ih =>
    obtain ⟨extent, extents, rfl⟩ := List.exists_cons_of_length_eq_add_one hlen
    rw [List.forall_mem_cons] at hpos
    refine List.Forall₂.cons ?_ (ih (Nat.succ.inj hlen) hpos.2)
    rw [EdgePadding.low_add_high_balanced]
    exact missingElements_one hpos.1

/-- For every window and strides that are accepted, the padding is the least balanced one, a
convolution has as many positions as the strides go into the axes, rounded up, and a sliding window
has as many but at least one. No strides are strides of one. -/
theorem balancedPadding_least (hextents : (checkEntries .extent dims extents).result = .ok ()) :
    (∀ strides, (checkEntries .stride dims strides).result = .ok () →
      ∃ padding, balancedPadding dims extents (some strides) = pure padding ∧
        List.Forall₂ (fun (dim, extent, stride) => LeastBalanced dim extent stride)
          (windowAxes dims extents strides) padding ∧
        (∀ batch channels out inputs names given,
          (GivenNames.assign names (batch :: channels :: dims)).result = .ok given →
          convolve (batch :: channels :: dims) names (out :: inputs :: extents) strides
              (padding.map fun p => [p.low, p.high]) =
            pure ⟨batch :: out ::
              List.zipWith (fun dim stride : ℤ => ⌈(dim : ℚ) / stride⌉) dims strides, given⟩) ∧
        windowPositions (padEdges dims padding) extents strides =
          pure (List.zipWith (fun dim stride : ℤ => max ⌈(dim : ℚ) / stride⌉ 1) dims strides)) ∧
    balancedPadding dims extents none =
      balancedPadding dims extents (some (List.replicate dims.length 1)) ∧
    ∃ padding, balancedPadding dims extents none = pure padding ∧
      List.Forall₂ (fun extent p => p.low + p.high = extent - 1) extents padding := by
  refine ⟨fun strides hstrides => ?_, balancedPadding_none dims extents, ?_⟩
  · exact ⟨leastPadding dims extents strides, balancedPadding_eq_pure hextents hstrides,
      forall₂_leastBalanced hextents hstrides,
      fun _ _ _ _ _ _ hnames => convolve_leastPadding hextents hstrides hnames,
      windowPositions_leastPadding hextents hstrides⟩
  · refine ⟨leastPadding dims extents (List.replicate dims.length 1), ?_,
      forall₂_total_ones hextents⟩
    rw [balancedPadding_none, balancedPadding_eq_pure hextents (result_checkEntries_ones dims)]

/-- An even and an odd padding, and an axis without elements that needs none. -/
theorem balancedPadding_least_even_none_odd :
    (checkEntries .extent [7, 0, 5] [3, 2, 4]).result = .ok () ∧
      List.Forall₂ (fun (dim, extent, stride) => LeastBalanced dim extent stride)
        [(7, 3, 2), (0, 2, 3), (5, 4, 1)] [⟨1, 1⟩, ⟨0, 0⟩, ⟨1, 2⟩] ∧
      windowPositions [9, 0, 8] [3, 2, 4] [2, 3, 1] = pure [4, 1, 5] := by
  have hextents : (checkEntries .extent [7, 0, 5] [3, 2, 4]).result = .ok () :=
    Outcome.result_eq_ok_of_answer? (by decide +kernel)
  have hstrides : (checkEntries .stride [7, 0, 5] [2, 3, 1]).result = .ok () :=
    Outcome.result_eq_ok_of_answer? (by decide +kernel)
  have hpadding : (balancedPadding [7, 0, 5] [3, 2, 4] (some [2, 3, 1])).result =
      .ok [⟨1, 1⟩, ⟨0, 0⟩, ⟨1, 2⟩] :=
    Outcome.result_eq_ok_of_answer? (by decide +kernel)
  obtain ⟨padding, heq, hleast, -, hwindow⟩ := (balancedPadding_least hextents).1 _ hstrides
  obtain rfl := Outcome.result_pure_eq_ok.mp (heq ▸ hpadding)
  refine ⟨hextents, hleast, hwindow.trans (congrArg pure ?_)⟩
  decide +kernel

end TensorShape
