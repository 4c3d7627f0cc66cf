import TensorShape.Dot
import TensorShape.Permutation
import TensorShape.Proofs.Axis.Rearrangement
import TensorShape.Proofs.Convolution
import TensorShape.Proofs.Padding

/-! # Operations with checked steps

A division faults where its divisor is zero, and a subscript where its axis lies outside the list.
Operations are written out here with each of their divisions and subscripts as such a step. They are
equal to the operations themselves, so a step that may not fault is kept from it by the checks that
come before it.
-/

namespace TensorShape

open Outcome

namespace Checked

variable {α : Type}

section Steps

def quotient (n divisor : ℤ) : Outcome ℤ :=
  if divisor = 0 then .fault .zeroStride else pure (n.fdiv divisor)

/-- The entry at an axis, which may count from the end. -/
def subscript (xs : List α) (axis : ℤ) : Outcome α :=
  match entryFromEitherEnd? xs axis with
  | some x => pure x
  | none => .fault (if IndexSized axis then .axisOutside else .axisOversized)

variable {xs : List α} {x : α} {axis : ℤ}

theorem quotient_eq_pure {divisor : ℤ} (h : divisor ≠ 0) (n : ℤ) :
    quotient n divisor = pure (n.fdiv divisor) :=
  if_neg h

theorem subscript_eq_pure (h : entryFromEitherEnd? xs axis = some x) :
    subscript xs axis = pure x := by
  rw [subscript, h]

theorem subscript_of_entryAt? (h : entryAt? xs axis = some x) : subscript xs axis = pure x := by
  have hwithin := entryAt?_isSome.mp (Option.isSome_of_eq_some h)
  rw [subscript_eq_pure ((entryFromEitherEnd?_of_nonneg hwithin.1).trans h)]

@[simp] theorem subscript_cons_zero (x : α) (xs : List α) : subscript (x :: xs) 0 = pure x := rfl

theorem mapM_subscript {axes : List ℤ} (h : ∀ i ∈ axes, 0 ≤ i ∧ i < xs.length) :
    axes.mapM (subscript xs) = pure (selectAxes axes xs) := by
  induction axes with
  | nil => rfl
  | cons i axes ih =>
    rw [List.forall_mem_cons] at h
    obtain ⟨x, hx⟩ := Option.isSome_iff_exists.mp (entryAt?_isSome.mpr h.1)
    have hselect : selectAxes (i :: axes) xs = x :: selectAxes axes xs :=
      List.filterMap_cons_some hx
    rw [List.mapM_cons, subscript_of_entryAt? hx, pure_bind, ih h.2, pure_bind, hselect]

end Steps

section Window

def positions (dim extent stride : ℤ) : Outcome ℤ := do
  let steps ← quotient (dim - extent) stride
  return steps + 1

def windowPositions (dims extents strides : List ℤ) : Outcome Shape := do
  checkEntries .extent dims extents
  checkEntries .stride dims strides
  (windowAxes dims extents strides).mapM fun (dim, extent, stride) => do
    let count ← positions dim extent stride
    return max count 1

def balanced (dim extent stride : ℤ) : Outcome EdgePadding := do
  let steps ← quotient (-dim) stride
  let total := max ((-steps - 1) * stride + extent - dim) 0
  let half ← quotient total 2
  return ⟨half, total - half⟩

def balancedPadding (dims extents : List ℤ) (strides : Option (List ℤ)) :
    Outcome (List EdgePadding) := do
  checkEntries .extent dims extents
  let strides ←
    match strides with
    | none => pure (List.replicate dims.length 1)
    | some strides => do
      checkEntries .stride dims strides
      pure strides
  (windowAxes dims extents strides).mapM fun (dim, extent, stride) => balanced dim extent stride

variable {dims extents strides : List ℤ} {stride : ℤ}

theorem positions_eq (dim extent stride : ℤ) :
    positions dim extent stride = filterPositions dim extent stride := by
  unfold positions quotient filterPositions
  split <;> rfl

theorem positions_eq_pure (h : stride ≠ 0) (dim extent : ℤ) :
    positions dim extent stride = pure (TensorShape.positions dim extent stride) := by
  rw [positions, quotient_eq_pure h, pure_bind, TensorShape.positions]

theorem balanced_eq_pure (h : stride ≠ 0) (dim extent : ℤ) :
    balanced dim extent stride = pure (.balanced (missingElements dim extent stride)) := by
  have hhalf (total : ℤ) : quotient total 2 = pure (total / 2) := by
    rw [quotient_eq_pure (by decide), Int.fdiv_eq_ediv_of_nonneg _ (by decide)]
  simp only [balanced, quotient_eq_pure h, hhalf, pure_bind]
  rfl

theorem mapM_balanced (h : ∀ s ∈ strides, 0 < s) :
    ((windowAxes dims extents strides).mapM fun (dim, extent, stride) =>
      balanced dim extent stride) =
    pure ((windowAxes dims extents strides).map fun (dim, extent, stride) =>
      .balanced (missingElements dim extent stride)) :=
  mapM_eq_pure fun _ haxis => balanced_eq_pure (h _ (stride_mem_of_mem_windowAxes haxis)).ne' _ _

/-- The strides of a window are positive once they are checked, so no division is by zero. -/
theorem windowPositions_eq (dims extents strides : List ℤ) :
    windowPositions dims extents strides =
      TensorShape.windowPositions dims extents strides := by
  refine bind_congr_of_ok fun _ _ => bind_congr_of_ok fun _ hstrides => ?_
  obtain ⟨-, hpos⟩ := result_checkEntries_eq_ok.mp hstrides
  refine mapM_eq_pure ?_
  rintro ⟨dim, extent, stride⟩ haxis
  simp only [positions_eq_pure (hpos _ (stride_mem_of_mem_windowAxes haxis)).ne', pure_bind]

theorem balancedPadding_eq (dims extents : List ℤ) (strides : Option (List ℤ)) :
    balancedPadding dims extents strides =
      TensorShape.balancedPadding dims extents strides := by
  refine bind_congr_of_ok fun _ _ => ?_
  cases strides with
  | none =>
    refine mapM_balanced fun s hs => ?_
    rw [List.eq_of_mem_replicate hs]
    exact Int.one_pos
  | some strides =>
    exact bind_congr_of_ok fun _ hstrides =>
      mapM_balanced (result_checkEntries_eq_ok.mp hstrides).2

end Window

section Slicing

def sliceSize (s : Slice) (axis : ℕ) : Outcome ℤ :=
  if s.stride ≤ 0 then .fault (.nonPositiveStride s.stride axis)
  else do
    let steps ← quotient (s.start - s.limit) s.stride
    if -steps ≤ 0 then reject (.emptySlice axis s.start s.limit s.stride)
    else pure (-steps)

def slice (start limit stride : List ℤ) (dims : Option Shape) : Outcome Shape :=
  let rank := (dims.getD start).length
  if start.length = rank ∧ limit.length = rank ∧ stride.length = rank then
    (Slice.ofLists start limit stride).zipIdx.mapM fun entry => sliceSize entry.1 entry.2
  else reject (.sliceCount rank start limit stride)

theorem sliceSize_eq (s : Slice) (axis : ℕ) : sliceSize s axis = s.size axis := by
  unfold sliceSize Slice.size
  split
  · rfl
  · rename_i hstride
    have hne : s.stride ≠ 0 := fun h => hstride h.le
    rw [quotient_eq_pure hne, pure_bind]
    rfl

theorem slice_eq (start limit stride : List ℤ) (dims : Option Shape) :
    slice start limit stride dims = TensorShape.slice start limit stride dims := by
  simp only [slice, TensorShape.slice, sliceSize_eq]

end Slicing

section Removal

def removeAxes (dims : Shape) (axes : List ℤ) (names : GivenNames) : Outcome NamedShape := do
  let names ← names.assign dims
  let kept := (allAxes dims.length).filter fun axis => axis ∉ axes
  let keptDims ← kept.mapM (subscript dims)
  let keptNames ← kept.mapM (subscript names)
  LabelledShape.build keptDims keptNames

theorem mapM_subscript_kept (axes : List ℤ) (xs : List α) :
    ((allAxes xs.length).filter fun axis => axis ∉ axes).mapM (subscript xs) =
      pure (eraseAxes axes xs) := by
  rw [eraseAxes_eq_selectAxes]
  exact mapM_subscript fun i hi => mem_allAxes.mp (List.mem_of_mem_filter hi)

theorem removeAxes_eq (dims : Shape) (axes : List ℤ) (names : GivenNames) :
    removeAxes dims axes names = TensorShape.removeAxes dims axes names := by
  refine bind_congr_of_ok fun given hgiven => ?_
  have hnames := mapM_subscript_kept axes given
  rw [GivenNames.length_of_assign hgiven] at hnames
  dsimp only
  rw [mapM_subscript_kept, pure_bind, hnames, pure_bind]

end Removal

section Contraction

def checkContracted (lhs rhs : Shape) (axes : ℤ × ℤ) : Outcome Unit := do
  let lhsDim ← subscript lhs axes.1
  let rhsDim ← subscript rhs axes.2
  if lhsDim = rhsDim then pure ()
  else reject (.contractionClash axes.1 lhsDim axes.2 rhsDim)

def dot (lhs : Shape) (lhsAxes : List ℤ) (lhsNames : GivenNames)
    (rhs : Shape) (rhsAxes : List ℤ) (rhsNames : GivenNames) : Outcome NamedShape := do
  if lhsAxes.length ≠ rhsAxes.length then reject (.contractionCount lhsAxes rhsAxes)
  else
    (lhsAxes.zip rhsAxes).forM (checkContracted lhs rhs)
    let left ← removeAxes lhs lhsAxes lhsNames
    let right ← removeAxes rhs rhsAxes rhsNames
    let result := left.append right
    let repeated := repeatedNames result.names
    if repeated = [] then pure result
    else reject (.contractionNames result.names repeated)

theorem subscript_eq_dimensionAt (dims : Shape) : subscript dims = dimensionAt dims := by
  funext axis
  rw [subscript, dimensionAt]
  cases entryFromEitherEnd? dims axis <;> rfl

theorem checkContracted_eq (lhs rhs : Shape) :
    checkContracted lhs rhs = TensorShape.checkContracted lhs rhs := by
  funext axes
  rw [checkContracted, TensorShape.checkContracted, subscript_eq_dimensionAt,
    subscript_eq_dimensionAt]

theorem dot_eq (lhs : Shape) (lhsAxes : List ℤ) (lhsNames : GivenNames) (rhs : Shape)
    (rhsAxes : List ℤ) (rhsNames : GivenNames) :
    dot lhs lhsAxes lhsNames rhs rhsAxes rhsNames =
      TensorShape.dot lhs lhsAxes lhsNames rhs rhsAxes rhsNames := by
  simp only [dot, TensorShape.dot, checkContracted_eq, removeAxes_eq]

end Contraction

section Permutation

def permute (dims : Shape) (permutation : List ℤ) (names : GivenNames) : Outcome NamedShape := do
  let names ← names.assign dims
  if permutation.length ≠ dims.length then reject (.permutationCount permutation dims.length)
  else
    match permutation.find? fun axis => decide (axis < 0 ∨ (dims.length : ℤ) ≤ axis) with
    | some axis => reject (.permutationOutside axis dims.length)
    | none => do
      let permutedDims ← permutation.mapM (subscript dims)
      let permutedNames ← permutation.mapM (subscript names)
      LabelledShape.build permutedDims permutedNames

theorem permute_eq (dims : Shape) (permutation : List ℤ) (names : GivenNames) :
    permute dims permutation names = TensorShape.permute dims permutation names := by
  refine bind_congr_of_ok fun given hgiven => ?_
  split
  · rfl
  · cases hfind : permutation.find? fun axis => decide (axis < 0 ∨ (dims.length : ℤ) ≤ axis) with
    | some axis => rfl
    | none =>
      have hwithin := within_of_find?_eq_none hfind
      have hnames : permutation.mapM (subscript given) = pure (selectAxes permutation given) :=
        mapM_subscript ((GivenNames.length_of_assign hgiven).symm ▸ hwithin)
      simp only [mapM_subscript hwithin, hnames, pure_bind]

end Permutation

section Convolution

/-- The entries that a convolution pads its input with: none for the batch and the channels, and the
edges for the spatial axes. -/
def paddingEntries (input kernel strides : List ℤ) (padding : List (List ℤ)) :
    Outcome (List (List ℤ)) := do
  let edges ← convolutionEdges input kernel strides padding
  return [0, 0, 0] :: [0, 0, 0] :: edges.map fun p => [p.low, p.high, 0]

/-- `convolve` with checked steps, and with padding given by entries that are read again. -/
def convolve (input : Shape) (names : GivenNames) (kernel strides : List ℤ)
    (padding : List (List ℤ)) : Outcome NamedShape := do
  let names ← names.assign input
  let entries ← paddingEntries input kernel strides padding
  let padded ← padEntries input entries
  let spatial ← (windowAxes (padded.drop 2) (kernel.drop 2) strides).mapM
    fun (dim, extent, stride) => positions dim extent stride
  let batch ← subscript input 0
  let channels ← subscript kernel 0
  LabelledShape.build (batch :: channels :: spatial) names

variable {input kernel strides : List ℤ} {padding entries : List (List ℤ)}

theorem exists_edges_of_paddingEntries
    (h : (paddingEntries input kernel strides padding).result = .ok entries) :
    ∃ edges, padding = (edges.map fun p => [p.low, p.high]) ∧
      ConvolutionFits input kernel strides edges ∧
        entries = [0, 0, 0] :: [0, 0, 0] :: edges.map fun p => [p.low, p.high, 0] := by
  obtain ⟨edges, hedges, hentries⟩ := result_bind_eq_ok.mp h
  obtain ⟨rfl, hfits⟩ := result_convolutionEdges_eq_ok.mp hedges
  exact ⟨edges, rfl, hfits, (result_pure_eq_ok.mp hentries).symm⟩

/-- Wherever a convolution comes to pad its input, it can. -/
theorem padEntries_paddingEntries {edges : List EdgePadding}
    (h : ConvolutionFits input kernel strides edges) :
    padEntries input ([0, 0, 0] :: [0, 0, 0] :: edges.map fun p => [p.low, p.high, 0]) =
      pure (input.take 2 ++ padEdges (input.drop 2) edges) := by
  obtain ⟨batch, channels, dims, out, inputs, extents, rfl, rfl, -, -, hpadding⟩ := h.exists_cons
  have hentries : [0, 0, 0] :: [0, 0, 0] :: edges.map (fun p => [p.low, p.high, 0]) =
      (((⟨0, 0⟩ : EdgePadding) :: ⟨0, 0⟩ :: edges).map EdgePadding.toPadding).map
        Padding.toList := by
    simp [EdgePadding.toPadding, Padding.toList, Function.comp_def]
  rw [hentries, padEntries_toList, padAxes_toPadding hpadding]
  rfl

theorem convolve_eq (input : Shape) (names : GivenNames) (kernel strides : List ℤ)
    (padding : List (List ℤ)) :
    convolve input names kernel strides padding =
      TensorShape.convolve input names kernel strides padding := by
  rw [convolve_eq_bind]
  refine bind_congr_of_ok fun given _ => ?_
  rw [paddingEntries, bind_assoc]
  refine bind_congr_of_ok fun edges hedges => ?_
  obtain ⟨rfl, hfits⟩ := result_convolutionEdges_eq_ok.mp hedges
  obtain ⟨batch, channels, dims, out, inputs, extents, rfl, rfl, -, -, hpadding⟩ :=
    hfits.exists_cons
  rw [pure_bind, padEntries_paddingEntries hfits, padAxes_toPadding hpadding]
  simp only [positions_eq, subscript_cons_zero, pure_bind]
  rfl

end Convolution

end Checked

end TensorShape
