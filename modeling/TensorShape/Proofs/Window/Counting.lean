import TensorShape.Proofs.Attachment
import TensorShape.Proofs.Slicing

/-! # Positions counted three ways

A convolution, a sliding window and a slice of the positions at which the filter starts all count
the steps after which the filter still fits into the padded axis. They part where it does not fit at
all: then the convolution counts none or fewer, the window one, and the slice is empty.
-/

namespace TensorShape

variable {dims extents strides : List ℤ}

section Slices

/-- The slices of the positions at which a window can start. -/
def windowSlices (dims extents strides : List ℤ) : List Slice :=
  (windowAxes dims extents strides).map fun (dim, extent, stride) => ⟨0, dim - extent + 1, stride⟩

theorem map_start_windowSlices (hextents : extents.length = dims.length)
    (hstrides : strides.length = dims.length) :
    (windowSlices dims extents strides).map Slice.start = List.replicate dims.length 0 := by
  rw [← length_windowAxes hextents hstrides, windowSlices, List.map_map]
  exact List.map_const'

theorem map_limit_windowSlices (hextents : extents.length = dims.length)
    (hstrides : strides.length = dims.length) :
    (windowSlices dims extents strides).map Slice.limit =
      List.zipWith (fun dim extent => dim - extent + 1) dims extents := by
  apply List.ext_getElem
  · simp [windowSlices, windowAxes, hextents, hstrides]
  · intro i hi hi'
    simp [windowSlices, windowAxes]

theorem map_stride_windowSlices (hextents : extents.length = dims.length)
    (hstrides : strides.length = dims.length) :
    (windowSlices dims extents strides).map Slice.stride = strides := by
  rw [windowSlices, List.map_map]
  exact map_stride_windowAxes hextents hstrides

theorem map_count_windowSlices (hpos : ∀ s ∈ strides, 0 < s) :
    (windowSlices dims extents strides).map Slice.count =
      (windowAxes dims extents strides).map fun (dim, extent, stride) =>
        positions dim extent stride := by
  rw [windowSlices, List.map_map]
  refine List.map_congr_left fun axis haxis => ?_
  have hstride := hpos _ (stride_mem_of_mem_windowAxes haxis)
  rw [Function.comp_apply, Slice.count_eq_stepsToCover, Int.sub_zero,
    stepsToCover_sub_add_one hstride]

theorem slice_windowSlices (hextents : extents.length = dims.length)
    (hstrides : strides.length = dims.length) {shape : Option Shape}
    (hshape : ∀ d ∈ shape, d.length = dims.length) :
    slice (List.replicate dims.length 0)
        (List.zipWith (fun dim extent => dim - extent + 1) dims extents) strides shape =
      Slice.sizes (windowSlices dims extents strides) := by
  have hlen : (windowSlices dims extents strides).length = dims.length := by
    rw [windowSlices, List.length_map, length_windowAxes hextents hstrides]
  rw [← slice_eq_sizes fun d hd => (hshape d hd).trans hlen.symm,
    map_start_windowSlices hextents hstrides, map_limit_windowSlices hextents hstrides,
    map_stride_windowSlices hextents hstrides]

theorem sizes_windowSlices (hextents : extents.length = dims.length)
    (hstrides : strides.length = dims.length) (hpos : ∀ s ∈ strides, 0 < s) {counts : Shape}
    (hcounts : (windowSlices dims extents strides).map Slice.count = counts) :
    ((Slice.sizes (windowSlices dims extents strides)).RejectedWith .emptySlice ↔
        ∃ n ∈ counts, n ≤ 0) ∧
      ((∀ n ∈ counts, 0 < n) → Slice.sizes (windowSlices dims extents strides) = pure counts) := by
  have hstride : ∀ s ∈ windowSlices dims extents strides, 0 < s.stride := by
    rw [← List.forall_mem_map (f := Slice.stride) (P := fun stride => 0 < stride),
      map_stride_windowSlices hextents hstrides]
    exact hpos
  subst hcounts
  constructor
  · rw [Slice.rejectedWith_sizes_iff hstride]
    simp only [List.mem_map, exists_exists_and_eq_and]
  · intro hcount
    rw [List.forall_mem_map] at hcount
    exact Slice.sizes_eq_pure fun s hs => ⟨hstride s hs, hcount s hs⟩

end Slices

section Convolution

variable {input : Shape} {names : GivenNames} {kernel : List ℤ} {padding : List EdgePadding}

theorem ConvolutionFits.convolvedDims_entries
    (h : ConvolutionFits input kernel strides padding) :
    (convolvedDims input kernel strides padding)[0]? = input[0]? ∧
      (convolvedDims input kernel strides padding)[1]? = kernel[0]? ∧
        (convolvedDims input kernel strides padding).drop 2 =
          filteredDims (input.drop 2) (kernel.drop 2) strides padding := by
  obtain ⟨batch, channels, dims, out, inputs, extents, rfl, rfl, -, -, -⟩ := h.exists_cons
  exact ⟨rfl, rfl, rfl⟩

/-- Along every padded axis a convolution counts the steps after which the filter still fits, none
or fewer exactly if it never does. A sliding window counts as many but at least one, and a slice of
the starting positions as many, unless some axis has none. The batch, the output channels, the rank
and the names are those of the input and the kernel. -/
theorem convolve_window_slice_agree (hnames : (names.assign input).Succeeds)
    (hfits : ConvolutionFits input kernel strides padding)
    (hextents : ∀ e ∈ kernel.drop 2, 1 ≤ e) (hstrides : ∀ s ∈ strides, 1 ≤ s) :
    let padded := padEdges (input.drop 2) padding
    let extents := kernel.drop 2
    ∃ r, convolve input names kernel strides (padding.map fun p => [p.low, p.high]) = pure r ∧
      (r.rank = input.length ∧ r.names = names.read input ∧ r.dims[0]? = input[0]? ∧
        r.dims[1]? = kernel[0]?) ∧
      windowPositions padded extents strides = pure ((r.dims.drop 2).map fun n => max n 1) ∧
      List.Forall₂ (fun n (dim, extent, stride) => (1 ≤ n ↔ extent ≤ dim) ∧
          (1 ≤ n → (Set.ncard {k : ℤ | 0 ≤ k ∧ k * stride + extent ≤ dim} : ℤ) = n))
        (r.dims.drop 2) (windowAxes padded extents strides) ∧
      ∀ shape : Option Shape, (∀ d ∈ shape, d.length = padded.length) →
        let sliced := slice (List.replicate padded.length 0)
          (List.zipWith (fun dim extent => dim - extent + 1) padded extents) strides shape
        (sliced.RejectedWith .emptySlice ↔ ∃ n ∈ r.dims.drop 2, n ≤ 0) ∧
          ((∀ n ∈ r.dims.drop 2, 0 < n) → sliced = pure (r.dims.drop 2)) := by
  intro padded extents
  obtain ⟨given, hgiven⟩ := hnames
  obtain ⟨hbatch, hchannels, hspatial⟩ := hfits.convolvedDims_entries
  have hpos : ∀ s ∈ strides, 0 < s := fun s hs => Int.one_pos.trans_le (hstrides s hs)
  have hpadded : padded.length = input.length - 2 := by
    rw [length_padEdges (by rw [hfits.length_padding, List.length_drop]), List.length_drop]
  have hlen : extents.length = padded.length := by
    rw [List.length_drop, hfits.length_kernel, hpadded]
  have hlen' : strides.length = padded.length := hfits.length_strides.trans hpadded.symm
  refine ⟨_, hfits.convolve_eq_pure hgiven fun s hs => (hpos s hs).ne', ?_, ?_, ?_, ?_⟩
  · exact ⟨hfits.length_convolvedDims, (GivenNames.read_eq_of_assign hgiven).symm, hbatch,
      hchannels⟩
  · rw [hspatial, windowPositions_eq_pure hlen hlen' hextents hpos, filteredDims, List.map_map]
    rfl
  · rw [hspatial, filteredDims, List.forall₂_map_left_iff, List.forall₂_same]
    intro axis haxis
    have hstride := hpos _ (stride_mem_of_mem_windowAxes haxis)
    exact ⟨one_le_positions_iff hstride, fun hone =>
      ncard_positions hstride (Int.one_pos.le.trans hone)⟩
  · intro shape hshape
    rw [hspatial, slice_windowSlices hlen hlen' hshape]
    exact sizes_windowSlices hlen hlen' hpos (map_count_windowSlices hpos)

/-- On the second axis the filter is longer than the padded axis. -/
theorem convolve_window_slice_agree_filter_too_long :
    let names : GivenNames := .ofNames (some [some "batch", none, some "time", none])
    let r : NamedShape := ⟨[2, 4, 4, 0], [some "batch", none, some "time", none]⟩
    (names.assign [2, 3, 7, 2]).Succeeds ∧
      ConvolutionFits [2, 3, 7, 2] [4, 3, 3, 4] [2, 3] [⟨1, 1⟩, ⟨0, 1⟩] ∧
      convolve [2, 3, 7, 2] names [4, 3, 3, 4] [2, 3] [[1, 1], [0, 1]] = pure r ∧
      windowPositions [9, 3] [3, 4] [2, 3] = pure [4, 1] ∧
      (Set.ncard {k : ℤ | 0 ≤ k ∧ k * 2 + 3 ≤ 9} : ℤ) = 4 ∧
      (slice [0, 0] [7, 0] [2, 3] (some [9, 3])).RejectedWith .emptySlice := by
  intro names r
  have hnames : (names.assign [2, 3, 7, 2]).Succeeds :=
    ⟨_, congrArg Outcome.result (GivenNames.assign_ofNames_some rfl)⟩
  have hfits : ConvolutionFits [2, 3, 7, 2] [4, 3, 3, 4] [2, 3] [⟨1, 1⟩, ⟨0, 1⟩] :=
    ⟨by decide, by decide, by decide, by decide⟩
  have hr : (convolve [2, 3, 7, 2] names [4, 3, 3, 4] [2, 3] [[1, 1], [0, 1]]).result = .ok r :=
    Outcome.result_eq_ok_of_answer? (by decide +kernel)
  obtain ⟨q, hq, -, hwindow, hcount, hslice⟩ :=
    convolve_window_slice_agree hnames hfits (by decide) (by decide)
  obtain rfl := Outcome.result_pure_eq_ok.mp (hq ▸ hr)
  have hfirst := (List.forall₂_cons.mp hcount).1.2 (by decide)
  exact ⟨hnames, hfits, hq, hwindow, hfirst, (hslice (some [9, 3]) (by simp [padEdges])).1.mpr
    ⟨0, by decide, le_rfl⟩⟩

end Convolution

end TensorShape
