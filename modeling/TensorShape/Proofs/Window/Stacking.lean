import TensorShape.Proofs.Convolution

/-! # Stacked convolutions

A convolution of a convolution is one convolution of the input. A step of the second filter is as
long as a stride of the first one, so its extent, its stride and its padding count in such strides.
-/

namespace TensorShape

/-- The extents of two filters in one, where the strides are those of the first one. -/
def stackedExtents (extents strides others : List ℤ) : List ℤ :=
  List.zipWith (· + ·) extents
    (List.zipWith (fun stride other => (other - 1) * stride) strides others)

def EdgePadding.add (p q : EdgePadding) : EdgePadding := ⟨p.low + q.low, p.high + q.high⟩

/-- The padding with so many elements in place of each. -/
def EdgePadding.scale (count : ℤ) (p : EdgePadding) : EdgePadding :=
  ⟨count * p.low, count * p.high⟩

def stackedPadding (padding : List EdgePadding) (strides : List ℤ) (others : List EdgePadding) :
    List EdgePadding :=
  List.zipWith .add padding (List.zipWith .scale strides others)

section Axes

variable {dims extents strides extents' strides' : List ℤ} {padding padding' : List EdgePadding}

theorem length_stackedExtents (hstrides : strides.length = extents.length)
    (hextents' : extents'.length = extents.length) :
    (stackedExtents extents strides extents').length = extents.length := by
  rw [stackedExtents, List.length_zipWith, List.length_zipWith, hstrides, hextents', Nat.min_self,
    Nat.min_self]

theorem length_stackedPadding (hstrides : strides.length = padding.length)
    (hpadding' : padding'.length = padding.length) :
    (stackedPadding padding strides padding').length = padding.length := by
  rw [stackedPadding, List.length_zipWith, List.length_zipWith, hstrides, hpadding', Nat.min_self,
    Nat.min_self]

theorem filteredDims_filteredDims (hextents : extents.length = dims.length)
    (hstrides : strides.length = dims.length) (hpadding : padding.length = dims.length)
    (hextents' : extents'.length = dims.length) (hstrides' : strides'.length = dims.length)
    (hpadding' : padding'.length = dims.length) (hpos : ∀ s ∈ strides, 0 < s)
    (hpos' : ∀ s ∈ strides', 0 < s) :
    filteredDims (filteredDims dims extents strides padding) extents' strides' padding' =
      filteredDims dims (stackedExtents extents strides extents')
        (List.zipWith (· * ·) strides strides') (stackedPadding padding strides padding') := by
  apply List.ext_getElem
  · simp [filteredDims, windowAxes, padEdges, stackedExtents, stackedPadding, *]
  · intro i hi hi'
    simp only [filteredDims, windowAxes, padEdges, stackedExtents, stackedPadding,
      List.getElem_map, List.getElem_zip, List.getElem_zipWith, EdgePadding.add, EdgePadding.scale]
    rw [Int.add_assoc, positions_positions (hpos _ (List.getElem_mem _))
      (hpos' _ (List.getElem_mem _))]
    congr 1
    ring

end Axes

section Convolution

variable {input : Shape} {names : GivenNames} {out inputs out' inputs' : ℤ}
  {extents strides extents' strides' : List ℤ} {padding padding' : List EdgePadding}

theorem ConvolutionFits.congr {input' kernel : List ℤ}
    (h : ConvolutionFits input kernel strides padding) (hlen : input.length = input'.length) :
    ConvolutionFits input' kernel strides padding :=
  ⟨hlen ▸ h.two_le, hlen ▸ h.length_kernel, hlen ▸ h.length_strides, hlen ▸ h.length_padding⟩

theorem forall_mem_zipWith_mul_ne_zero (hpos : ∀ s ∈ strides, 0 < s)
    (hpos' : ∀ s ∈ strides', 0 < s) : ∀ s ∈ List.zipWith (· * ·) strides strides', s ≠ 0 := by
  intro s hs
  rw [← List.map_uncurry_zip_eq_zipWith] at hs
  obtain ⟨pair, hpair, rfl⟩ := List.mem_map.mp hs
  obtain ⟨hl, hr⟩ := List.of_mem_zip hpair
  exact (Int.mul_pos (hpos _ hl) (hpos' _ hr)).ne'

theorem ConvolutionFits.stacked
    (h : ConvolutionFits input (out :: inputs :: extents) strides padding)
    (h' : ConvolutionFits input (out' :: inputs' :: extents') strides' padding') :
    ConvolutionFits input (out' :: inputs :: stackedExtents extents strides extents')
      (List.zipWith (· * ·) strides strides') (stackedPadding padding strides padding') := by
  obtain ⟨htwo, hkernel, hstrides, hpadding⟩ := h
  obtain ⟨-, hkernel', hstrides', hpadding'⟩ := h'
  simp only [List.length_cons] at hkernel hkernel'
  refine ⟨htwo, ?_, ?_, ?_⟩
  · rw [List.length_cons, List.length_cons, length_stackedExtents (by omega) (by omega), hkernel]
  · rw [List.length_zipWith, hstrides, hstrides', Nat.min_self]
  · rw [length_stackedPadding (by omega) (by omega), hpadding]

theorem convolvedDims_convolvedDims
    (h : ConvolutionFits input (out :: inputs :: extents) strides padding)
    (h' : ConvolutionFits input (out' :: inputs' :: extents') strides' padding')
    (hpos : ∀ s ∈ strides, 0 < s) (hpos' : ∀ s ∈ strides', 0 < s) :
    convolvedDims (convolvedDims input (out :: inputs :: extents) strides padding)
        (out' :: inputs' :: extents') strides' padding' =
      convolvedDims input (out' :: inputs :: stackedExtents extents strides extents')
        (List.zipWith (· * ·) strides strides') (stackedPadding padding strides padding') := by
  obtain ⟨batch, channels, dims, _, _, _, rfl, heq, hextents, hstrides, hpadding⟩ := h.exists_cons
  obtain ⟨rfl, rfl, rfl⟩ : out = _ ∧ inputs = _ ∧ extents = _ := by simpa using heq
  obtain ⟨-, hkernel', hstrides', hpadding'⟩ := h'
  have hextents' : extents'.length = dims.length := Nat.succ.inj (Nat.succ.inj hkernel')
  exact congrArg (fun spatial => batch :: out' :: spatial)
    (filteredDims_filteredDims hextents hstrides hpadding hextents' hstrides' hpadding' hpos hpos')

/-- A convolution with the answer of another one as its input is one convolution of the first input,
with the extents, the padding and the products of the strides of both. -/
theorem convolve_stacked (hnames : (names.assign input).Succeeds)
    (hfits : ConvolutionFits input (out :: inputs :: extents) strides padding)
    (hpos : ∀ s ∈ strides, 1 ≤ s) (hpos' : ∀ s ∈ strides', 1 ≤ s) :
    ∃ r, convolve input names (out :: inputs :: extents) strides
        (padding.map fun p => [p.low, p.high]) = pure r ∧
      (ConvolutionFits r.dims (out' :: inputs' :: extents') strides' padding' →
        ∃ q, convolve r.dims r.given (out' :: inputs' :: extents') strides'
            (padding'.map fun p => [p.low, p.high]) = pure q ∧
          convolve input names (out' :: inputs :: stackedExtents extents strides extents')
            (List.zipWith (· * ·) strides strides')
            ((stackedPadding padding strides padding').map fun p => [p.low, p.high]) = pure q) := by
  obtain ⟨given, hgiven⟩ := hnames
  have hpos₀ : ∀ s ∈ strides, 0 < s := fun s hs => Int.one_pos.trans_le (hpos s hs)
  have hpos₀' : ∀ s ∈ strides', 0 < s := fun s hs => Int.one_pos.trans_le (hpos' s hs)
  refine ⟨_, hfits.convolve_eq_pure hgiven fun s hs => (hpos₀ s hs).ne', fun hfits' => ?_⟩
  have hrank := hfits.length_convolvedDims
  have halign : LabelledShape.Aligned
      ⟨convolvedDims input (out :: inputs :: extents) strides padding, given⟩ :=
    (GivenNames.length_of_assign hgiven).trans hrank.symm
  have hassign := congrArg Outcome.result halign.assign_given
  refine ⟨_, hfits'.convolve_eq_pure hassign fun s hs => (hpos₀' s hs).ne', ?_⟩
  have hsame := hfits'.congr hrank
  rw [(hfits.stacked hsame).convolve_eq_pure hgiven (forall_mem_zipWith_mul_ne_zero hpos₀ hpos₀'),
    ← convolvedDims_convolvedDims hfits hsame hpos₀ hpos₀']

/-- Between the two filters one of the axes has a negative size. -/
theorem convolve_stacked_negative_between :
    let names : GivenNames := .ofNames (some [some "batch", none, none, some "time"])
    let between : NamedShape := ⟨[1, 8, 5, -3], [some "batch", none, none, some "time"]⟩
    (names.assign [1, 3, 10, -6]).Succeeds ∧
      ConvolutionFits [1, 3, 10, -6] [8, 3, 3, 3] [2, 2] [⟨1, 0⟩, ⟨1, 0⟩] ∧
      convolve [1, 3, 10, -6] names [8, 3, 3, 3] [2, 2] [[1, 0], [1, 0]] = pure between ∧
      ConvolutionFits between.dims [4, 8, 2, 2] [3, 3] [⟨0, 1⟩, ⟨2, 2⟩] ∧
      ∃ q, convolve between.dims between.given [4, 8, 2, 2] [3, 3] [[0, 1], [2, 2]] = pure q ∧
        convolve [1, 3, 10, -6] names [4, 3, 5, 5] [6, 6] [[1, 2], [5, 4]] = pure q := by
  intro names between
  have hnames : (names.assign [1, 3, 10, -6]).Succeeds :=
    ⟨_, congrArg Outcome.result (GivenNames.assign_ofNames_some rfl)⟩
  have hfits : ConvolutionFits [1, 3, 10, -6] [8, 3, 3, 3] [2, 2] [⟨1, 0⟩, ⟨1, 0⟩] :=
    ⟨by decide, by decide, by decide, by decide⟩
  have hfits' : ConvolutionFits between.dims [4, 8, 2, 2] [3, 3] [⟨0, 1⟩, ⟨2, 2⟩] :=
    ⟨by decide, by decide, by decide, by decide⟩
  have hbetween : (convolve [1, 3, 10, -6] names [8, 3, 3, 3] [2, 2] [[1, 0], [1, 0]]).result =
      .ok between :=
    Outcome.result_eq_ok_of_answer? (by decide +kernel)
  have hpos : ∀ s ∈ [(2 : ℤ), 2], 1 ≤ s := by decide
  have hpos' : ∀ s ∈ [(3 : ℤ), 3], 1 ≤ s := by decide
  obtain ⟨r, hr, hstack⟩ := convolve_stacked hnames hfits hpos hpos'
  obtain rfl := Outcome.result_pure_eq_ok.mp (hr ▸ hbetween)
  exact ⟨hnames, hfits, hr, hfits', hstack hfits'⟩

end Convolution

end TensorShape
