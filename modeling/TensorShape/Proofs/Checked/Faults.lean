import Mathlib.Data.Set.List
import TensorShape.Proofs.Checked.Mapping
import TensorShape.Proofs.Dot.Contraction

/-! # Where a step faults

Faults of an index or of arithmetic come from the steps of an operation alone. No division faults
but those of a convolution, for a stride of zero once all that is checked before is as required. No
subscript faults but those of a contraction, for the first pair of axes with an axis outside its
shape if all pairs before it can be contracted.
-/

namespace TensorShape

open Outcome

section Steps

variable {α : Type} {x : Outcome α} {c : Category} {V : Violation → Prop} {F : Fault → Prop}

/-- The fault lies in the kind or in the value of an argument, not in a step. -/
def Fault.IsOfArgument (f : Fault) : Prop := f.category = .kind ∨ f.category = .value

structure Outcome.StepsSafely (x : Outcome α) : Prop where
  not_index : ¬ x.FaultsWith .index
  not_arithmetic : ¬ x.FaultsWith .arithmetic

theorem Defect.isOfArgument (d : Defect) : (Fault.defect d).IsOfArgument := by
  unfold Fault.IsOfArgument Fault.category
  cases d <;> decide

theorem Outcome.Ends.fault_of_faultsWith (h : x.Ends V F) (hx : x.FaultsWith c) :
    ∃ f, (F f ∨ f.IsOfArgument) ∧ f.category = c := by
  obtain ⟨f, hf, hc⟩ := hx
  rcases h.fault_of_result hf with hF | ⟨defect, rfl⟩
  · exact ⟨f, Or.inl hF, hc⟩
  · exact ⟨_, Or.inr defect.isOfArgument, hc⟩

theorem Outcome.Ends.stepsSafely (h : x.Ends V F) (hF : ∀ f, F f → f.IsOfArgument) :
    x.StepsSafely := by
  have hcategory {c : Category} (hx : x.FaultsWith c) : c = .kind ∨ c = .value := by
    obtain ⟨f, hf, rfl⟩ := h.fault_of_faultsWith hx
    exact hf.elim (hF f) id
  exact ⟨fun hx => absurd (hcategory hx) (by decide), fun hx => absurd (hcategory hx) (by decide)⟩

theorem stepsSafely_reject (v : Violation) : (reject v : Outcome α).StepsSafely := by
  have hends : (reject v : Outcome α).Ends (fun _ => True) fun _ => False := .rejection trivial
  exact hends.stepsSafely fun _ hf => hf.elim

theorem isOfArgument_nameKind {f : Fault} (h : f = .nameKind) : f.IsOfArgument :=
  Or.inl (h ▸ rfl)

theorem EntryFault.isOfArgument {parts : ℕ} {f : Fault} (h : EntryFault parts f) :
    f.IsOfArgument := by
  obtain ⟨got, rfl⟩ := h
  rw [wrongLength]
  split <;> exact Or.inr rfl

theorem SliceFault.isOfArgument {f : Fault} (h : SliceFault f) : f.IsOfArgument := by
  obtain ⟨stride, axis, rfl⟩ := h
  exact Or.inr rfl

theorem WindowFault.isOfArgument {f : Fault} (h : WindowFault f) : f.IsOfArgument := by
  obtain ⟨part, entries, rfl⟩ := h
  exact Or.inr rfl

end Steps

section Safe

theorem stepsSafely_windowPositions (dims extents strides : List ℤ) :
    (windowPositions dims extents strides).StepsSafely :=
  (ends_windowPositions (P := fun _ => True) dims extents strides).stepsSafely
    fun _ => WindowFault.isOfArgument

theorem stepsSafely_balancedPadding (dims extents : List ℤ) (strides : Option (List ℤ)) :
    (balancedPadding dims extents strides).StepsSafely :=
  (ends_balancedPadding (P := fun _ => True) dims extents strides).stepsSafely
    fun _ => WindowFault.isOfArgument

theorem stepsSafely_slice (start limit stride : List ℤ) (dims : Option Shape) :
    (slice start limit stride dims).StepsSafely :=
  (ends_slice (P := fun _ => True) start limit stride dims).stepsSafely
    fun _ => SliceFault.isOfArgument

variable (dims : Shape) (axes : List ℤ) (names : GivenNames)

theorem stepsSafely_assign : (names.assign dims).StepsSafely :=
  (ends_assign names.all_true).stepsSafely fun _ => isOfArgument_nameKind

theorem stepsSafely_removeAxes : (removeAxes dims axes names).StepsSafely :=
  (ends_removeAxes names.all_true axes).stepsSafely fun _ => isOfArgument_nameKind

theorem stepsSafely_removeUnitAxes : (removeUnitAxes dims axes names).StepsSafely :=
  (ends_removeUnitAxes names.all_true axes).stepsSafely fun _ => isOfArgument_nameKind

theorem stepsSafely_permute : (permute dims axes names).StepsSafely :=
  (ends_permute names.all_true axes).stepsSafely fun _ => isOfArgument_nameKind

theorem stepsSafely_checkMapping (source target : Shape) (axes : List ℤ) :
    (checkMapping source target axes).StepsSafely :=
  (ends_checkMapping (P := fun _ => True) source target axes).stepsSafely
    fun _ => isOfArgument_nameKind

theorem stepsSafely_broadcast (lhs : Shape) (lhsNames : GivenNames) (rhs : Shape)
    (rhsNames : GivenNames) : (broadcast lhs lhsNames rhs rhsNames).StepsSafely :=
  (ends_broadcast lhsNames.all_true rhsNames.all_true).stepsSafely fun _ => isOfArgument_nameKind

end Safe

section Contraction

def Reaches (dims : Shape) (axis : ℤ) : Prop := -(dims.length : ℤ) ≤ axis ∧ axis < dims.length

instance (dims : Shape) (axis : ℤ) : Decidable (Reaches dims axis) :=
  inferInstanceAs (Decidable (_ ∧ _))

def Contractible (lhs rhs : Shape) (i j : ℤ) : Prop :=
  (Reaches lhs i ∧ Reaches rhs j) ∧ entryFromEitherEnd? lhs i = entryFromEitherEnd? rhs j

variable {lhs rhs : Shape} {lhsAxes rhsAxes : List ℤ}

theorem reaches_iff {dims : Shape} {axis : ℤ} :
    Reaches dims axis ↔ ∃ d, entryFromEitherEnd? dims axis = some d := by
  rw [← Option.isSome_iff_exists, entryFromEitherEnd?_isSome, Reaches]

theorem index_dimensionAt_iff {dims : Shape} {axis : ℤ} :
    (dimensionAt dims axis).FaultsWith .index ↔ ¬ Reaches dims axis := by
  rw [reaches_iff, ← Option.isSome_iff_exists, Option.not_isSome_iff_eq_none]
  unfold dimensionAt
  cases h : entryFromEitherEnd? dims axis with
  | some d => exact iff_of_false (not_faultsWith_pure d) (by simp)
  | none =>
    rw [faultsWith_fault]
    exact iff_of_true (by split <;> rfl) rfl

theorem succeeds_checkContracted_iff {axes : ℤ × ℤ} :
    (checkContracted lhs rhs axes).Succeeds ↔ Contractible lhs rhs axes.1 axes.2 := by
  rw [Contractible, reaches_iff, reaches_iff]
  constructor
  · rintro ⟨_, h⟩
    obtain ⟨d, hl, hr⟩ := exists_of_checkContracted h
    exact ⟨⟨⟨d, hl⟩, d, hr⟩, hl.trans hr.symm⟩
  · rintro ⟨⟨⟨d, hl⟩, -⟩, heq⟩
    rw [checkContracted_eq_pure hl (heq.symm.trans hl)]
    exact succeeds_pure ()

theorem index_checkContracted_iff {axes : ℤ × ℤ} :
    (checkContracted lhs rhs axes).FaultsWith .index ↔
      ¬ (Reaches lhs axes.1 ∧ Reaches rhs axes.2) := by
  simp only [checkContracted, faultsWith_bind, index_dimensionAt_iff, result_dimensionAt_eq_ok]
  rw [not_and_or]
  constructor
  · rintro (hl | ⟨lhsDim, hl, hr | ⟨rhsDim, hr, h⟩⟩)
    · exact Or.inl hl
    · exact Or.inr hr
    · split at h
      · exact absurd h (not_faultsWith_pure ())
      · exact absurd h (stepsSafely_reject _).not_index
  · rintro (hl | hr)
    · exact Or.inl hl
    · by_cases hl : Reaches lhs axes.1
      · obtain ⟨lhsDim, hl⟩ := reaches_iff.mp hl
        exact Or.inr ⟨lhsDim, hl, Or.inl hr⟩
      · exact Or.inl hl

theorem index_dot_iff_forM (lhsNames rhsNames : GivenNames) :
    (dot lhs lhsAxes lhsNames rhs rhsAxes rhsNames).FaultsWith .index ↔
      lhsAxes.length = rhsAxes.length ∧
        ((lhsAxes.zip rhsAxes).forM (checkContracted lhs rhs)).FaultsWith .index := by
  unfold dot
  split
  · rename_i hlen
    exact iff_of_false (stepsSafely_reject _).not_index fun h => hlen h.1
  · rename_i hlen
    rw [faultsWith_bind, and_iff_right (not_not.mp hlen), or_iff_left]
    rintro ⟨_, -, h⟩
    rcases faultsWith_bind.mp h with h | ⟨left, -, h⟩
    · exact (stepsSafely_removeAxes lhs lhsAxes lhsNames).not_index h
    · rcases faultsWith_bind.mp h with h | ⟨right, -, h⟩
      · exact (stepsSafely_removeAxes rhs rhsAxes rhsNames).not_index h
      · dsimp only at h
        split at h
        · exact not_faultsWith_pure _ h
        · exact (stepsSafely_reject _).not_index h

/-- A contraction faults at the first pair of axes with an axis outside its shape, where all pairs
before have equal dimensions. -/
theorem index_dot_iff (lhsNames rhsNames : GivenNames) :
    (dot lhs lhsAxes lhsNames rhs rhsAxes rhsNames).FaultsWith .index ↔
      lhsAxes.length = rhsAxes.length ∧
        ∃ (k : ℕ) (_ : k < lhsAxes.length) (_ : k < rhsAxes.length),
          (∀ (j : ℕ) (_ : j < k), Contractible lhs rhs lhsAxes[j] rhsAxes[j]) ∧
            ¬ (Reaches lhs lhsAxes[k] ∧ Reaches rhs rhsAxes[k]) := by
  rw [index_dot_iff_forM, faultsWith_forM]
  simp only [succeeds_checkContracted_iff, index_checkContracted_iff, List.getElem_zip,
    List.length_zip, lt_min_iff]
  refine and_congr_right fun _ => exists_congr fun k => ?_
  constructor
  · rintro ⟨⟨hl, hr⟩, h⟩
    exact ⟨hl, hr, h⟩
  · rintro ⟨hl, hr, h⟩
    exact ⟨⟨hl, hr⟩, h⟩

end Contraction

section Convolution

variable {input kernel strides : List ℤ} {padding : List (List ℤ)}
  {names : GivenNames}

theorem EdgePadding.exists_edges_iff :
    (∃ edges : List EdgePadding, padding = edges.map fun p => [p.low, p.high]) ↔
      ∀ entry ∈ padding, entry.length = 2 := by
  constructor
  · rintro ⟨edges, rfl⟩
    exact List.forall_mem_map.mpr fun p _ => rfl
  · intro h
    have hrange : padding ∈ Set.range (List.map fun p : EdgePadding => [p.low, p.high]) := by
      rw [Set.range_list_map]
      intro entry hentry
      obtain ⟨low, high, rfl⟩ := List.length_eq_two.mp (h entry hentry)
      exact ⟨⟨low, high⟩, rfl⟩
    obtain ⟨edges, rfl⟩ := hrange
    exact ⟨edges, rfl⟩

theorem succeeds_paddingEntries_iff :
    (Checked.paddingEntries input kernel strides padding).Succeeds ↔
      2 ≤ input.length ∧ kernel.length = input.length ∧ strides.length = input.length - 2 ∧
        padding.length = input.length - 2 ∧ ∀ entry ∈ padding, entry.length = 2 := by
  rw [← EdgePadding.exists_edges_iff]
  constructor
  · rintro ⟨entries, h⟩
    obtain ⟨edges, rfl, hfits, -⟩ := Checked.exists_edges_of_paddingEntries h
    refine ⟨hfits.two_le, hfits.length_kernel, hfits.length_strides, ?_, edges, rfl⟩
    rw [List.length_map, hfits.length_padding]
  · rintro ⟨htwo, hkernel, hstrides, hpadding, edges, rfl⟩
    rw [List.length_map] at hpadding
    have hfits : ConvolutionFits input kernel strides edges :=
      ⟨htwo, hkernel, hstrides, hpadding⟩
    rw [Checked.paddingEntries, hfits.convolutionEdges_eq_pure, pure_bind]
    exact succeeds_pure _

theorem stepsSafely_paddingEntries :
    (Checked.paddingEntries input kernel strides padding).StepsSafely := by
  have hends := (ends_convolutionEdges (P := fun _ => True) input kernel strides padding).bind
    fun edges _ => .answer ([0, 0, 0] :: [0, 0, 0] :: edges.map fun p => [p.low, p.high, 0])
  exact hends.stepsSafely fun _ => EntryFault.isOfArgument

theorem stepsSafely_build (dims : Shape) (names : List AxisName) :
    (LabelledShape.build dims names).StepsSafely := by
  have hends : (LabelledShape.build dims names).Ends (fun _ => True) Fault.IsOfArgument := by
    unfold LabelledShape.build
    split
    · exact .answer _
    · exact .fault (Or.inr rfl)
  exact hends.stepsSafely fun _ => id

theorem arithmetic_mapM_positions_iff {axes : List (ℤ × ℤ × ℤ)} :
    (axes.mapM fun (dim, extent, stride) =>
      Checked.positions dim extent stride).FaultsWith .arithmetic ↔
        ∃ axis ∈ axes, axis.2.2 = 0 := by
  induction axes with
  | nil => exact iff_of_false (not_faultsWith_pure []) (by simp)
  | cons axis axes ih =>
    obtain ⟨dim, extent, stride⟩ := axis
    rw [List.mapM_cons, faultsWith_bind, List.exists_mem_cons_iff]
    by_cases hzero : stride = 0
    · subst hzero
      exact iff_of_true (Or.inl (faultsWith_fault.mpr rfl)) (Or.inl rfl)
    · rw [← ih, or_iff_right hzero]
      simp only [Checked.positions_eq_pure hzero, result_pure_eq_ok, exists_eq_left',
        faultsWith_bind, not_faultsWith_pure, and_false, exists_false, or_false, false_or]

theorem arithmetic_spatial_iff {edges : List EdgePadding}
    (h : ConvolutionFits input kernel strides edges) :
    ((windowAxes ((input.take 2 ++ padEdges (input.drop 2) edges).drop 2) (kernel.drop 2)
      strides).mapM fun (dim, extent, stride) =>
        Checked.positions dim extent stride).FaultsWith .arithmetic ↔ 0 ∈ strides := by
  obtain ⟨batch, channels, dims, out, inputs, extents, rfl, rfl, hextents, hstrides, hpadding⟩ :=
    h.exists_cons
  have hlen := length_padEdges hpadding
  rw [arithmetic_mapM_positions_iff, ← List.mem_map]
  exact iff_of_eq (congrArg (0 ∈ ·)
    (map_stride_windowAxes (hextents.trans hlen.symm) (hstrides.trans hlen.symm)))

/-- A convolution that comes to pad its input faults exactly for a stride of zero. -/
theorem arithmetic_convolve_iff :
    (convolve input names kernel strides padding).FaultsWith .arithmetic ↔
      (names.assign input).Succeeds ∧
        (Checked.paddingEntries input kernel strides padding).Succeeds ∧ 0 ∈ strides := by
  rw [← Checked.convolve_eq, Checked.convolve]
  constructor
  · intro h
    rcases faultsWith_bind.mp h with h | ⟨given, hgiven, h⟩
    · exact absurd h (stepsSafely_assign input names).not_arithmetic
    · rcases faultsWith_bind.mp h with h | ⟨entries, hentries, h⟩
      · exact absurd h stepsSafely_paddingEntries.not_arithmetic
      · refine ⟨⟨given, hgiven⟩, ⟨entries, hentries⟩, ?_⟩
        obtain ⟨edges, rfl, hfits, rfl⟩ := Checked.exists_edges_of_paddingEntries hentries
        rw [Checked.padEntries_paddingEntries hfits, pure_bind] at h
        rcases faultsWith_bind.mp h with h | ⟨spatial, -, h⟩
        · exact (arithmetic_spatial_iff hfits).mp h
        · obtain ⟨batch, channels, dims, out, inputs, extents, rfl, rfl, -⟩ := hfits.exists_cons
          simp only [Checked.subscript_cons_zero, pure_bind] at h
          exact absurd h (stepsSafely_build _ _).not_arithmetic
  · rintro ⟨⟨given, hgiven⟩, ⟨entries, hentries⟩, hzero⟩
    obtain ⟨edges, rfl, hfits, rfl⟩ := Checked.exists_edges_of_paddingEntries hentries
    refine faultsWith_bind.mpr (Or.inr ⟨given, hgiven, ?_⟩)
    refine faultsWith_bind.mpr (Or.inr ⟨_, hentries, ?_⟩)
    rw [Checked.padEntries_paddingEntries hfits, pure_bind]
    exact faultsWith_bind.mpr (Or.inl ((arithmetic_spatial_iff hfits).mpr hzero))

theorem not_index_convolve :
    ¬ (convolve input names kernel strides padding).FaultsWith .index := by
  intro h
  obtain ⟨f, hf, hindex⟩ :=
    (ends_convolve names.all_true kernel strides padding).fault_of_faultsWith h
  have hkinds : f.IsOfArgument ∨ f = .zeroStride := by
    rcases hf with (hkind | hentry | hzero) | hargument
    · exact Or.inl (isOfArgument_nameKind hkind)
    · exact Or.inl hentry.isOfArgument
    · exact Or.inr hzero
    · exact Or.inl hargument
  rcases hkinds with hargument | rfl
  · rw [Fault.IsOfArgument, hindex] at hargument
    exact absurd hargument (by decide)
  · cases hindex

end Convolution

/-- Where exactly a step faults. A division of a window or a slice never does, and a subscript only
in a contraction: at the first pair of axes that do not both lie within their shapes, if all pairs
before it match. A convolution pads its input without fail, and then divides by its strides,
whatever they are. -/
theorem steps_fault_iff :
    (∀ dims extents strides,
      Checked.windowPositions dims extents strides = windowPositions dims extents strides ∧
        ¬ (windowPositions dims extents strides).FaultsWith .arithmetic) ∧
    (∀ dims extents strides,
      Checked.balancedPadding dims extents strides = balancedPadding dims extents strides ∧
        ¬ (balancedPadding dims extents strides).FaultsWith .arithmetic) ∧
    (∀ start limit stride dims,
      Checked.slice start limit stride dims = slice start limit stride dims ∧
        ¬ (slice start limit stride dims).FaultsWith .arithmetic) ∧
    (∀ input names kernel strides padding,
      let x := convolve input (.ofNames names) kernel strides padding
      Checked.convolve input (.ofNames names) kernel strides padding = x ∧
        ¬ x.FaultsWith .index ∧
        (x.FaultsWith .arithmetic ↔ (∀ ns ∈ names, ns.length = input.length) ∧
          2 ≤ input.length ∧ kernel.length = input.length ∧
            strides.length = input.length - 2 ∧ padding.length = input.length - 2 ∧
              (∀ entry ∈ padding, entry.length = 2) ∧ 0 ∈ strides) ∧
        ∀ entries, (Checked.paddingEntries input kernel strides padding).result = .ok entries →
          (padEntries input entries).Succeeds) ∧
    (∀ dims axes names, Checked.removeAxes dims axes names = removeAxes dims axes names ∧
      ¬ (removeAxes dims axes names).FaultsWith .index) ∧
    (∀ dims axes names, ¬ (removeUnitAxes dims axes names).FaultsWith .index) ∧
    (∀ dims permutation names,
      Checked.permute dims permutation names = permute dims permutation names ∧
        ¬ (permute dims permutation names).FaultsWith .index) ∧
    (∀ source target axes,
      Checked.checkMapping source target axes = checkMapping source target axes ∧
        ¬ (checkMapping source target axes).FaultsWith .index) ∧
    (∀ lhs lhsNames rhs rhsNames, ¬ (broadcast lhs lhsNames rhs rhsNames).FaultsWith .index) ∧
    ∀ lhs (lhsAxes : List ℤ) lhsNames rhs (rhsAxes : List ℤ) rhsNames,
      let x := dot lhs lhsAxes lhsNames rhs rhsAxes rhsNames
      Checked.dot lhs lhsAxes lhsNames rhs rhsAxes rhsNames = x ∧
        (x.FaultsWith .index ↔ lhsAxes.length = rhsAxes.length ∧
          ∃ (k : ℕ) (_ : k < lhsAxes.length) (_ : k < rhsAxes.length),
            (∀ (j : ℕ) (_ : j < k), Contractible lhs rhs lhsAxes[j] rhsAxes[j]) ∧
              ¬ (Reaches lhs lhsAxes[k] ∧ Reaches rhs rhsAxes[k])) := by
  refine ⟨fun dims extents strides => ?_, fun dims extents strides => ?_,
    fun start limit stride dims => ?_, fun input names kernel strides padding => ?_,
    fun dims axes names => ?_, fun dims axes names => ?_, fun dims permutation names => ?_,
    fun source target axes => ?_, fun lhs lhsNames rhs rhsNames => ?_,
    fun lhs lhsAxes lhsNames rhs rhsAxes rhsNames => ?_⟩
  · exact ⟨Checked.windowPositions_eq dims extents strides,
      (stepsSafely_windowPositions dims extents strides).not_arithmetic⟩
  · exact ⟨Checked.balancedPadding_eq dims extents strides,
      (stepsSafely_balancedPadding dims extents strides).not_arithmetic⟩
  · exact ⟨Checked.slice_eq start limit stride dims,
      (stepsSafely_slice start limit stride dims).not_arithmetic⟩
  · refine ⟨Checked.convolve_eq input _ kernel strides padding, not_index_convolve, ?_, ?_⟩
    · rw [arithmetic_convolve_iff, GivenNames.succeeds_assign_ofNames, succeeds_paddingEntries_iff]
      simp only [and_assoc]
    · intro entries hentries
      obtain ⟨edges, -, hfits, rfl⟩ := Checked.exists_edges_of_paddingEntries hentries
      rw [Checked.padEntries_paddingEntries hfits]
      exact succeeds_pure _
  · exact ⟨Checked.removeAxes_eq dims axes names,
      (stepsSafely_removeAxes dims axes names).not_index⟩
  · exact (stepsSafely_removeUnitAxes dims axes names).not_index
  · exact ⟨Checked.permute_eq dims permutation names,
      (stepsSafely_permute dims permutation names).not_index⟩
  · exact ⟨Checked.checkMapping_eq source target axes,
      (stepsSafely_checkMapping source target axes).not_index⟩
  · exact (stepsSafely_broadcast lhs lhsNames rhs rhsNames).not_index
  · exact ⟨Checked.dot_eq lhs lhsAxes lhsNames rhs rhsAxes rhsNames,
      index_dot_iff lhsNames rhsNames⟩

/-- A stride of zero, found after the input was padded, and an axis outside its shape, found after a
pair that matches from the end. -/
theorem steps_fault_iff_zero_stride :
    (Checked.paddingEntries [1, 1, 5] [1, 1, 3] [0] [[1, -1]]).result =
        .ok [[0, 0, 0], [0, 0, 0], [1, -1, 0]] ∧
      (padEntries [1, 1, 5] [[0, 0, 0], [0, 0, 0], [1, -1, 0]]).Succeeds ∧
      (convolve [1, 1, 5] (.ofNames none) [1, 1, 3] [0] [[1, -1]]).FaultsWith .arithmetic ∧
      (dot [2, 3] [-1, 0] none [3, 4] [0, 2] none).FaultsWith .index := by
  obtain ⟨-, -, -, hconvolve, -, -, -, -, -, hdot⟩ := steps_fault_iff
  obtain ⟨-, -, harithmetic, hpad⟩ := hconvolve [1, 1, 5] none [1, 1, 3] [0] [[1, -1]]
  have hentries : (Checked.paddingEntries [1, 1, 5] [1, 1, 3] [0] [[1, -1]]).result =
      .ok [[0, 0, 0], [0, 0, 0], [1, -1, 0]] := rfl
  refine ⟨hentries, hpad _ hentries, harithmetic.mpr ?_, (hdot _ _ _ _ _ _).2.mpr ?_⟩
  · exact ⟨fun _ hns => absurd hns (Option.not_mem_none _), by decide, rfl, rfl, rfl, by decide,
      List.mem_singleton_self 0⟩
  · have hfirst : Contractible [2, 3] [3, 4] (-1) 0 := ⟨by decide, rfl⟩
    refine ⟨rfl, 1, by decide, by decide, fun j hj => ?_, by decide⟩
    obtain rfl := Nat.lt_one_iff.mp hj
    exact hfirst

end TensorShape
