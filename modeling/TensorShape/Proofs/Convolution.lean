import TensorShape.Convolution
import TensorShape.Proofs.Axis.Naming
import TensorShape.Proofs.Window.Positions

/-! # Convolutions that succeed

A convolution needs as many extents, strides and pairs of padding as there are spatial axes, and no
stride of zero. Then every spatial axis has the positions of the filter along the padded axis.
-/

namespace TensorShape

def padEdges (dims : Shape) (padding : List EdgePadding) : Shape :=
  List.zipWith (fun dim p => dim + p.low + p.high) dims padding

variable {dims extents strides : List ℤ} {padding : List EdgePadding} {names : GivenNames}
  {given : List AxisName}

theorem EdgePadding.extend_toPadding (p : EdgePadding) (size : ℤ) :
    p.toPadding.extend size = size + p.low + p.high := by
  simp [toPadding, Padding.extend]

theorem zipWith_extend_toPadding :
    List.zipWith Padding.extend (padding.map EdgePadding.toPadding) dims =
      padEdges dims padding := by
  simp only [List.zipWith_map_left, EdgePadding.extend_toPadding, padEdges]
  exact List.zipWith_comm

theorem EdgePadding.mapM_ofList (padding : List EdgePadding) :
    (padding.map fun p => [p.low, p.high]).mapM ofList = pure padding := by
  induction padding with
  | nil => rfl
  | cons p padding ih =>
    rw [List.map_cons, List.mapM_cons, ih]
    rfl

theorem padAxes_toPadding {batch channels : ℤ} (hpadding : padding.length = dims.length) :
    padAxes (batch :: channels :: dims)
        (((⟨0, 0⟩ : EdgePadding) :: ⟨0, 0⟩ :: padding).map EdgePadding.toPadding) =
      pure (batch :: channels :: padEdges dims padding) := by
  rw [padAxes, if_neg (by simp [hpadding]), ← zipWith_extend_toPadding]
  simp [EdgePadding.extend_toPadding]

theorem length_padEdges (hpadding : padding.length = dims.length) :
    (padEdges dims padding).length = dims.length := by
  rw [padEdges, List.length_zipWith, hpadding, Nat.min_self]

def filteredDims (dims extents strides : List ℤ) (padding : List EdgePadding) : Shape :=
  (windowAxes (padEdges dims padding) extents strides).map
    fun (dim, extent, stride) => positions dim extent stride

theorem length_filteredDims (hextents : extents.length = dims.length)
    (hstrides : strides.length = dims.length) (hpadding : padding.length = dims.length) :
    (filteredDims dims extents strides padding).length = dims.length := by
  have hlen := length_padEdges hpadding
  rw [filteredDims, List.length_map,
    length_windowAxes (hextents.trans hlen.symm) (hstrides.trans hlen.symm), hlen]

theorem convolve_eq_pure {batch channels out inputs : ℤ}
    (hnames : (names.assign (batch :: channels :: dims)).result = .ok given)
    (hextents : extents.length = dims.length) (hstrides : strides.length = dims.length)
    (hpadding : padding.length = dims.length) (hzero : ∀ s ∈ strides, s ≠ 0) :
    convolve (batch :: channels :: dims) names (out :: inputs :: extents) strides
        (padding.map fun p => [p.low, p.high]) =
      pure ⟨batch :: out :: filteredDims dims extents strides padding, given⟩ := by
  have hspatial : (windowAxes (padEdges dims padding) extents strides).mapM
      (fun (dim, extent, stride) => filterPositions dim extent stride) =
        pure (filteredDims dims extents strides padding) :=
    Outcome.mapM_eq_pure fun axis h => if_neg (hzero _ (stride_mem_of_mem_windowAxes h))
  have hgiven : given.length =
      (batch :: out :: filteredDims dims extents strides padding).length := by
    rw [GivenNames.length_of_assign hnames, List.length_cons, List.length_cons, List.length_cons,
      List.length_cons, length_filteredDims hextents hstrides hpadding]
  rw [convolve, GivenNames.assign_eq_pure hnames, pure_bind]
  simp only [List.length_cons, List.length_map, hextents, hstrides, hpadding,
    EdgePadding.mapM_ofList, pure_bind, padAxes_toPadding hpadding, List.drop_succ_cons,
    List.drop_zero, hspatial]
  rw [if_neg (by omega), if_neg (by omega), if_neg (by omega)]
  exact LabelledShape.build_eq_pure hgiven

/-- The kernel has the rank of the input, and there is a stride and a pair of padding for each
spatial axis. -/
structure ConvolutionFits (input kernel strides : List ℤ) (padding : List EdgePadding) : Prop where
  two_le : 2 ≤ input.length
  length_kernel : kernel.length = input.length
  length_strides : strides.length = input.length - 2
  length_padding : padding.length = input.length - 2

/-- The batch of the input, the output channels of the kernel and the filtered spatial axes. -/
def convolvedDims (input kernel strides : List ℤ) (padding : List EdgePadding) : Shape :=
  input.take 1 ++ kernel.take 1 ++ filteredDims (input.drop 2) (kernel.drop 2) strides padding

section Fits

variable {input kernel : List ℤ}

theorem ConvolutionFits.exists_cons (h : ConvolutionFits input kernel strides padding) :
    ∃ batch channels dims out inputs extents, input = batch :: channels :: dims ∧
      kernel = out :: inputs :: extents ∧ extents.length = dims.length ∧
        strides.length = dims.length ∧ padding.length = dims.length := by
  obtain ⟨htwo, hkernel, hstrides, hpadding⟩ := h
  obtain ⟨batch, rest, rfl⟩ := List.exists_cons_of_length_pos (Nat.lt_of_lt_of_le Nat.two_pos htwo)
  obtain ⟨channels, dims, rfl⟩ := List.exists_cons_of_length_pos (Nat.le_of_succ_le_succ htwo)
  obtain ⟨out, others, rfl⟩ := List.exists_cons_of_length_eq_add_one hkernel
  obtain ⟨inputs, extents, rfl⟩ := List.exists_cons_of_length_eq_add_one (Nat.succ.inj hkernel)
  exact ⟨batch, channels, dims, out, inputs, extents, rfl, rfl,
    Nat.succ.inj (Nat.succ.inj hkernel), hstrides, hpadding⟩

theorem ConvolutionFits.length_convolvedDims (h : ConvolutionFits input kernel strides padding) :
    (convolvedDims input kernel strides padding).length = input.length := by
  obtain ⟨batch, channels, dims, out, inputs, extents, rfl, rfl, hextents, hstrides, hpadding⟩ :=
    h.exists_cons
  simp [convolvedDims, length_filteredDims hextents hstrides hpadding, Nat.add_comm]

theorem ConvolutionFits.convolve_eq_pure (h : ConvolutionFits input kernel strides padding)
    (hnames : (names.assign input).result = .ok given) (hzero : ∀ s ∈ strides, s ≠ 0) :
    convolve input names kernel strides (padding.map fun p => [p.low, p.high]) =
      pure ⟨convolvedDims input kernel strides padding, given⟩ := by
  obtain ⟨batch, channels, dims, out, inputs, extents, rfl, rfl, hextents, hstrides, hpadding⟩ :=
    h.exists_cons
  exact TensorShape.convolve_eq_pure hnames hextents hstrides hpadding hzero

theorem EdgePadding.eq_of_ofList {entry : List ℤ} {p : EdgePadding}
    (h : (ofList entry).result = .ok p) : entry = [p.low, p.high] := by
  unfold ofList at h
  split at h
  · obtain rfl := Outcome.result_pure_eq_ok.mp h
    rfl
  · cases h

theorem EdgePadding.eq_map_of_mapM_ofList {entries : List (List ℤ)}
    (h : (entries.mapM ofList).result = .ok padding) :
    entries = padding.map fun p => [p.low, p.high] := by
  rw [← List.forall₂_eq_eq_eq, List.forall₂_map_right_iff]
  exact (Outcome.forall₂_of_mapM h).imp fun _ _ => eq_of_ofList

theorem EdgePadding.map_entry_injective :
    Function.Injective (List.map fun p : EdgePadding => [p.low, p.high]) := by
  refine List.map_injective_iff.mpr ?_
  rintro ⟨low, high⟩ ⟨low', high'⟩ h
  simpa using h

theorem ne_zero_of_filterPositions {dim extent stride n : ℤ}
    (h : (filterPositions dim extent stride).result = .ok n) : stride ≠ 0 := by
  rintro rfl
  cases h

theorem ConvolutionFits.ne_zero_of_mapM {padded spatial : Shape}
    (h : ConvolutionFits input kernel strides padding)
    (hpadded : (padAxes input (((⟨0, 0⟩ : EdgePadding) :: ⟨0, 0⟩ :: padding).map
      EdgePadding.toPadding)).result = .ok padded)
    (hspatial : ((windowAxes (padded.drop 2) (kernel.drop 2) strides).mapM
      fun (dim, extent, stride) => filterPositions dim extent stride).result = .ok spatial) :
    ∀ s ∈ strides, s ≠ 0 := by
  obtain ⟨batch, channels, dims, out, inputs, extents, rfl, rfl, hextents, hstrides, hpadding⟩ :=
    h.exists_cons
  rw [padAxes_toPadding hpadding, Outcome.result_pure_eq_ok] at hpadded
  subst hpadded
  have hlen := length_padEdges hpadding
  rw [← map_stride_windowAxes (hextents.trans hlen.symm) (hstrides.trans hlen.symm),
    List.forall_mem_map]
  intro axis haxis
  obtain ⟨n, hn⟩ := Outcome.exists_result_of_mapM hspatial axis haxis
  exact ne_zero_of_filterPositions hn

def convolutionEdges (input kernel strides : List ℤ) (entries : List (List ℤ)) :
    Outcome (List EdgePadding) :=
  let spatialRank := input.length - 2
  if input.length < 2 ∨ kernel.length ≠ input.length then reject (.kernelRank input kernel)
  else if strides.length ≠ spatialRank then
    reject (.convolutionCount .stride spatialRank strides.length)
  else if entries.length ≠ spatialRank then
    reject (.convolutionCount .padding spatialRank entries.length)
  else entries.mapM EdgePadding.ofList

section Edges

variable {entries : List (List ℤ)}

theorem ConvolutionFits.convolutionEdges_eq_pure
    (h : ConvolutionFits input kernel strides padding) :
    convolutionEdges input kernel strides (padding.map fun p => [p.low, p.high]) =
      pure padding := by
  obtain ⟨htwo, hkernel, hstrides, hpadding⟩ := h
  rw [convolutionEdges, if_neg (by omega), if_neg (not_not.mpr hstrides),
    if_neg (by rw [List.length_map]; exact not_not.mpr hpadding), EdgePadding.mapM_ofList]

theorem result_convolutionEdges_eq_ok :
    (convolutionEdges input kernel strides entries).result = .ok padding ↔
      entries = (padding.map fun p => [p.low, p.high]) ∧
        ConvolutionFits input kernel strides padding := by
  constructor
  · intro h
    unfold convolutionEdges at h
    dsimp only at h
    split at h
    · exact absurd h (result_reject_ne_ok _ _)
    · rename_i hrank
      split at h
      · exact absurd h (result_reject_ne_ok _ _)
      · rename_i hstrides
        split at h
        · exact absurd h (result_reject_ne_ok _ _)
        · rename_i hpadding
          obtain rfl := EdgePadding.eq_map_of_mapM_ofList h
          rw [List.length_map, not_not] at hpadding
          exact ⟨rfl, by omega, by omega, not_not.mp hstrides, hpadding⟩
  · rintro ⟨rfl, hfits⟩
    rw [hfits.convolutionEdges_eq_pure, Outcome.result_pure]

theorem convolve_eq_bind :
    convolve input names kernel strides entries = (do
      let given ← names.assign input
      let edges ← convolutionEdges input kernel strides entries
      let padded ← padAxes input
        (((⟨0, 0⟩ : EdgePadding) :: ⟨0, 0⟩ :: edges).map EdgePadding.toPadding)
      let spatial ← (windowAxes (padded.drop 2) (kernel.drop 2) strides).mapM
        fun (dim, extent, stride) => filterPositions dim extent stride
      LabelledShape.build (input.take 1 ++ kernel.take 1 ++ spatial) given) := by
  refine Outcome.bind_congr_of_ok fun given _ => ?_
  unfold convolutionEdges
  dsimp only
  split
  · exact (reject_bind _ _).symm
  · split
    · exact (reject_bind _ _).symm
    · split
      · exact (reject_bind _ _).symm
      · rfl

/-- A convolution succeeds exactly if names and ranks are as required, the padding comes in pairs
and no stride is zero. -/
theorem result_convolve_eq_ok {r : NamedShape} :
    (convolve input names kernel strides entries).result = .ok r ↔
      ∃ padding, entries = (padding.map fun p => [p.low, p.high]) ∧
        ConvolutionFits input kernel strides padding ∧ (∀ s ∈ strides, s ≠ 0) ∧
          (names.assign input).result = .ok r.names ∧
            r.dims = convolvedDims input kernel strides padding := by
  constructor
  · intro h
    have hsteps := h
    rw [convolve_eq_bind] at hsteps
    obtain ⟨given, hgiven, hsteps⟩ := Outcome.result_bind_eq_ok.mp hsteps
    obtain ⟨padding, hedges, hsteps⟩ := Outcome.result_bind_eq_ok.mp hsteps
    obtain ⟨padded, hpadded, hsteps⟩ := Outcome.result_bind_eq_ok.mp hsteps
    obtain ⟨spatial, hspatial, -⟩ := Outcome.result_bind_eq_ok.mp hsteps
    obtain ⟨rfl, hfits⟩ := result_convolutionEdges_eq_ok.mp hedges
    have hzero := hfits.ne_zero_of_mapM hpadded hspatial
    rw [hfits.convolve_eq_pure hgiven hzero, Outcome.result_pure_eq_ok] at h
    subst h
    exact ⟨padding, rfl, hfits, hzero, hgiven, rfl⟩
  · rintro ⟨padding, rfl, hfits, hzero, hnames, hdims⟩
    rw [hfits.convolve_eq_pure hnames hzero, Outcome.result_pure, ← hdims]

end Edges

end Fits

end TensorShape
