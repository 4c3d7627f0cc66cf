import TensorShape.Axis.Lookup
import TensorShape.Broadcast.Mapping
import TensorShape.Dot
import TensorShape.Permutation
import TensorShape.Proofs.Alignment
import TensorShape.Proofs.Axis.Selection
import TensorShape.Proofs.Convolution
import TensorShape.Proofs.Diagnostic.Reporting
import TensorShape.Proofs.Ending.Basic
import TensorShape.Proofs.UnitRemoval
import TensorShape.Slice

/-! # What may end each operation

For every operation, the faults that may end it and the values that its violations quote. Where a
message quotes names or shapes, the violations themselves are told, and what they quote follows. All
of this is read off the steps of an operation and the operations it calls; names and dimensions are
put together only where they are equally many, so that no fault comes from there. An operation that
cannot fault is shown to end for any kind of faults.
-/

namespace TensorShape

open Outcome

/-- The values that a violation quotes as they were handed in all have the property. -/
def Violation.Quotes (P : Value → Prop) (v : Violation) : Prop := ∀ given ∈ v.givenValues, P given

def GivenNames.All (P : Value → Prop) (names : GivenNames) : Prop :=
  ∀ given ∈ names, ∀ v ∈ given, P v

theorem GivenNames.all_true (names : GivenNames) : names.All fun _ => True :=
  fun _ _ _ _ => trivial

variable {P : Value → Prop} {F : Fault → Prop} {dims : Shape} {names : GivenNames} {v : Violation}

theorem Violation.Quotes.of_unquoted (h : v.givenValues = []) : v.Quotes P :=
  fun _ hv => absurd (h ▸ hv) List.not_mem_nil

theorem Outcome.Ends.unquoted {α : Type} (h : v.givenValues = []) :
    (reject v : Outcome α).Ends (Violation.Quotes P) F :=
  .rejection (.of_unquoted h)

/-- The call answers, or it is rejected with one of the codes. It never ends with a fault. -/
def Outcome.AnswersOr {α : Type} (x : Outcome α) (codes : List Code) : Prop :=
  x.Succeeds ∨ ∃ c ∈ codes, x.RejectedWith c

theorem Outcome.AnswersOr.result_ne_fault {α : Type} {x : Outcome α} {codes : List Code}
    (h : x.AnswersOr codes) (f : Fault) : x.result ≠ .error (.fault f) := by
  intro hf
  rcases h with ⟨a, ha⟩ | ⟨c, -, d, hd, -⟩
  · cases ha.symm.trans hf
  · cases hd.symm.trans hf

def Violation.OneOf (codes : List Code) (v : Violation) : Prop :=
  v.givenValues = [] ∧ v.code ∈ codes

theorem Outcome.Ends.answersOr {α : Type} {x : Outcome α} {codes : List Code}
    (h : x.Ends (Violation.OneOf codes) fun _ => False) : x.AnswersOr codes := by
  cases h with
  | answer a => exact Or.inl (succeeds_pure a)
  | rejection hv =>
    obtain ⟨hgiven, hcode⟩ := hv
    exact Or.inr ⟨_, hcode, Violation.rejectedWith_reject fun _ hm =>
      absurd (hgiven ▸ hm) List.not_mem_nil⟩
  | fault hf => exact hf.elim

section Naming

/-- What the assignment of names may be rejected for. -/
inductive NamingViolation (dims : Shape) : GivenNames → Violation → Prop
  | count (given : List Value) :
    NamingViolation dims (some given) (.nameCount dims.length given)

inductive MergeViolation : AxisName → AxisName → Violation → Prop
  | conflict (s t : String) : MergeViolation (some s) (some t) (.nameConflict s t)

theorem NamingViolation.quotes (h : NamingViolation dims names v) (hnames : names.All P) :
    v.Quotes P := by
  cases h
  exact hnames _ rfl

theorem NamingViolation.code_eq (h : NamingViolation dims names v) : v.code = .rankMismatch := by
  cases h
  rfl

theorem MergeViolation.code_eq {m n : AxisName} (h : MergeViolation m n v) :
    v.code = .nameConflict := by
  cases h
  rfl

theorem ends_required {V : Violation → Prop} : names.required.Ends V (· = .namesMissing) := by
  cases names with
  | none => exact .fault rfl
  | some given => exact .answer given

theorem ends_assign_naming (names : GivenNames) (dims : Shape) :
    (names.assign dims).Ends (NamingViolation dims names) (· = .nameKind) := by
  cases names with
  | none => exact .answer _
  | some given =>
    simp only [GivenNames.assign]
    split
    · exact .rejection (.count given)
    · split
      · exact .answer _
      · exact .fault rfl

theorem ends_assign (hnames : names.All P) :
    (names.assign dims).Ends (Violation.Quotes P) (· = .nameKind) :=
  (ends_assign_naming names dims).mono_violation fun _ hv => hv.quotes hnames

theorem ends_merge_conflict (m n : AxisName) : (m.merge n).Ends (MergeViolation m n) F := by
  cases m with
  | none => exact .answer n
  | some s =>
    cases n with
    | none => exact .answer _
    | some t =>
      simp only [AxisName.merge]
      split
      · exact .answer _
      · exact .rejection (.conflict s t)

theorem ends_merge (m n : AxisName) : (m.merge n).Ends (Violation.Quotes P) F :=
  (ends_merge_conflict m n).mono_violation fun _ hv => by cases hv; exact .of_unquoted rfl

end Naming

section Lookup

def LookupFault (f : Fault) : Prop := f = .namesMissing ∨ ∃ v, f = .axisKind v

inductive LookupViolation (dims : Shape) : GivenNames → AxisRef → Violation → Prop
  | unnamed (names : GivenNames) : LookupViolation dims names .unnamed .unnamedAxis
  | unknown (given : List Value) (s : String) :
    LookupViolation dims (some given) (.name s) (.unknownName s given)
  | outside (names : GivenNames) (i : ℤ) :
    LookupViolation dims names (.index i) (.axisOutside i dims.length)

inductive ListingViolation (dims : Shape) (names : GivenNames) (axes : List AxisRef) :
    Violation → Prop
  | lookup {axis : AxisRef} {v : Violation} : axis ∈ axes → LookupViolation dims names axis v →
    ListingViolation dims names axes v
  | repeated {resolved : List ℤ} : (axes.mapM (AxisRef.resolve dims names)).result = .ok resolved →
    ListingViolation dims names axes (.repeatedAxes axes dims.length resolved)

theorem LookupViolation.quotes {axis : AxisRef} (h : LookupViolation dims names axis v)
    (hnames : names.All P) : v.Quotes P := by
  cases h with
  | unnamed => exact .of_unquoted rfl
  | unknown given s => exact hnames given rfl
  | outside => exact .of_unquoted rfl

theorem ends_resolve_lookup (dims : Shape) (names : GivenNames) (axis : AxisRef) :
    (axis.resolve dims names).Ends (LookupViolation dims names axis) LookupFault := by
  cases axis with
  | unnamed => exact .rejection (.unnamed names)
  | other v => exact .fault (Or.inr ⟨v, rfl⟩)
  | name s =>
    simp only [AxisRef.resolve]
    refine (ends_required.mono_fault fun f hf => Or.inl hf).bind fun given hgiven => ?_
    split
    · exact .answer _
    · cases names with
      | none => cases hgiven
      | some ns =>
        obtain rfl := result_pure_eq_ok.mp hgiven
        exact .rejection (.unknown ns s)
  | index i =>
    simp only [AxisRef.resolve]
    split
    · exact .answer _
    · split
      · exact .answer _
      · exact .rejection (.outside names i)

theorem ends_resolve (hnames : names.All P) (axis : AxisRef) :
    (axis.resolve dims names).Ends (Violation.Quotes P) LookupFault :=
  (ends_resolve_lookup dims names axis).mono_violation fun _ hv => hv.quotes hnames

theorem ends_resolveAxes_listing (dims : Shape) (axes : List AxisRef) (names : GivenNames) :
    (resolveAxes dims axes names).Ends (ListingViolation dims names axes) LookupFault := by
  refine (Ends.mapM fun axis haxis => (ends_resolve_lookup dims names axis).mono_violation
    fun _ hv => .lookup haxis hv).bind fun resolved hresolved => ?_
  split
  · exact .answer _
  · exact .rejection (.repeated hresolved)

theorem ends_resolveAxes (hnames : names.All P) {axes : List AxisRef}
    (haxes : ∀ axis ∈ axes, P axis.toValue) :
    (resolveAxes dims axes names).Ends (Violation.Quotes P) LookupFault := by
  refine (ends_resolveAxes_listing dims axes names).mono_violation fun v hv => ?_
  cases hv with
  | lookup _ hlookup => exact hlookup.quotes hnames
  | repeated _ => exact List.forall_mem_map.mpr haxes

end Lookup

section Mapping

variable {source target : Shape} {axes : List ℤ}

inductive MappingViolation (source target : Shape) (axes : List ℤ) : Violation → Prop
  | count : MappingViolation source target axes (.mappingCount axes source.length)
  | outside (axis : ℤ) : MappingViolation source target axes (.mappingOutside axis target.length)
  | order (axis previous : ℤ) :
    MappingViolation source target axes (.mappingOrder axes axis previous)
  | clash : MappingViolation source target axes (.mappingClash source target axes)

theorem MappingViolation.givenValues_eq (h : MappingViolation source target axes v) :
    v.givenValues = [] := by
  cases h <;> rfl

theorem mappingViolation_of_axisViolation? {previous : Option MappedAxis} {current : MappedAxis}
    (h : axisViolation? source target axes previous current = some v) :
    MappingViolation source target axes v := by
  unfold axisViolation? at h
  split at h
  · cases h
    exact .outside _
  · rcases Option.or_eq_some_iff.mp h with horder | ⟨-, hdim⟩
    · cases previous with
      | none => cases horder
      | some p =>
        simp only [orderViolation?] at horder
        split at horder
        · cases horder
          exact .order _ _
        · split at horder <;> cases horder
          exact .clash
    · unfold dimensionViolation? at hdim
      split at hdim <;> cases hdim
      exact .clash

theorem mappingViolation_of_firstViolation? {previous : Option MappedAxis}
    {mapped : List MappedAxis}
    (h : firstViolation? source target axes previous mapped = some v) :
    MappingViolation source target axes v := by
  induction mapped generalizing previous with
  | nil => cases h
  | cons current rest ih =>
    rcases Option.or_eq_some_iff.mp h with hfirst | ⟨-, hrest⟩
    · exact mappingViolation_of_axisViolation? hfirst
    · exact ih hrest

theorem ends_checkMapping_mapping (source target : Shape) (axes : List ℤ) :
    (checkMapping source target axes).Ends (MappingViolation source target axes) F := by
  unfold checkMapping
  split
  · exact .rejection .count
  · split
    · exact .rejection .clash
    · split
      · exact .rejection (mappingViolation_of_firstViolation? ‹_›)
      · exact .answer ()

theorem ends_checkMapping (source target : Shape) (axes : List ℤ) :
    (checkMapping source target axes).Ends (Violation.Quotes P) F :=
  (ends_checkMapping_mapping source target axes).mono_violation fun _ hv =>
    .of_unquoted hv.givenValues_eq

theorem ends_trailingAxes (source target : Shape) :
    (trailingAxes source target).Ends (Violation.Quotes P) F := by
  unfold trailingAxes
  split
  · exact .unquoted rfl
  · exact .answer _

end Mapping

section Broadcast

variable {s t : NamedShape} {lhs rhs : Shape} {lhsNames rhsNames : GivenNames}

inductive JoinViolation (lhs rhs : Shape) : Violation → Prop
  | clash : JoinViolation lhs rhs (.pairClash lhs rhs)
  | names {m n : AxisName} {v : Violation} : MergeViolation m n v → JoinViolation lhs rhs v

theorem JoinViolation.givenValues_eq (h : JoinViolation lhs rhs v) : v.givenValues = [] := by
  cases h with
  | clash => rfl
  | names hmerge =>
    cases hmerge
    rfl

theorem ends_join (hs : s.Aligned) (ht : t.Aligned) :
    (join s t).Ends (JoinViolation s.dims t.dims) F := by
  unfold LabelledShape.Aligned at hs ht
  simp only [join]
  split
  · exact .rejection .clash
  · refine (Ends.mapM fun pair _ => (ends_merge_conflict pair.1 pair.2).mono_violation
      fun _ hv => .names hv).bind fun merged hmerged => ?_
    have hlen := length_of_mapM hmerged
    rw [LabelledShape.build_eq_pure (by simp only [hlen, length_align, List.length_map, hs, ht])]
    exact .answer _

inductive PairingViolation (lhs : Shape) (lhsNames : GivenNames) (rhs : Shape)
    (rhsNames : GivenNames) (v : Violation) : Prop
  | lhsNames (h : NamingViolation lhs lhsNames v)
  | rhsNames (h : NamingViolation rhs rhsNames v)
  | join (h : JoinViolation lhs rhs v)

theorem ends_broadcast_pairing (lhs : Shape) (lhsNames : GivenNames) (rhs : Shape)
    (rhsNames : GivenNames) :
    (broadcast lhs lhsNames rhs rhsNames).Ends (PairingViolation lhs lhsNames rhs rhsNames)
      (· = .nameKind) := by
  refine ((ends_assign_naming lhsNames lhs).mono_violation fun _ => .lhsNames).bind
    fun left hleft => ?_
  refine ((ends_assign_naming rhsNames rhs).mono_violation fun _ => .rhsNames).bind
    fun right hright => ?_
  split
  · exact .answer _
  · have hl : LabelledShape.Aligned ⟨lhs, left⟩ := GivenNames.length_of_assign hleft
    have hr : LabelledShape.Aligned ⟨rhs, right⟩ := GivenNames.length_of_assign hright
    exact (ends_join hl hr).mono_violation fun _ => .join

theorem ends_broadcast (hl : lhsNames.All P) (hr : rhsNames.All P) :
    (broadcast lhs lhsNames rhs rhsNames).Ends (Violation.Quotes P) (· = .nameKind) := by
  refine (ends_broadcast_pairing lhs lhsNames rhs rhsNames).mono_violation fun v hv => ?_
  cases hv with
  | lhsNames h => exact h.quotes hl
  | rhsNames h => exact h.quotes hr
  | join h => exact .of_unquoted h.givenValues_eq

end Broadcast

section Removal

theorem ends_removeAxes_naming (dims : Shape) (axes : List ℤ) (names : GivenNames) :
    (removeAxes dims axes names).Ends (NamingViolation dims names) (· = .nameKind) := by
  refine (ends_assign_naming names dims).bind fun given hgiven => ?_
  rw [LabelledShape.build_eq_pure
    (length_eraseAxes_congr (GivenNames.length_of_assign hgiven) axes)]
  exact .answer _

theorem ends_removeAxes (hnames : names.All P) (axes : List ℤ) :
    (removeAxes dims axes names).Ends (Violation.Quotes P) (· = .nameKind) :=
  (ends_removeAxes_naming dims axes names).mono_violation fun _ hv => hv.quotes hnames

theorem ends_removeUnitAxes (hnames : names.All P) (axes : List ℤ) :
    (removeUnitAxes dims axes names).Ends (Violation.Quotes P) (· = .nameKind) := by
  rw [removeUnitAxes_eq]
  refine (ends_assign hnames).bind fun given hgiven => ?_
  split
  · exact .unquoted rfl
  · rw [LabelledShape.build_eq_pure
      (length_eraseAxes_congr (GivenNames.length_of_assign hgiven) axes)]
    exact .answer _

end Removal

section Permutation

theorem within_of_find?_eq_none {rank : ℕ} {permutation : List ℤ}
    (h : (permutation.find? fun axis => decide (axis < 0 ∨ (rank : ℤ) ≤ axis)) = none) :
    ∀ axis ∈ permutation, 0 ≤ axis ∧ axis < rank := by
  intro axis haxis
  have hnot := List.find?_eq_none.mp h axis haxis
  simp only [decide_eq_true_eq] at hnot
  omega

theorem ends_permute (hnames : names.All P) (permutation : List ℤ) :
    (permute dims permutation names).Ends (Violation.Quotes P) (· = .nameKind) := by
  refine (ends_assign hnames).bind fun given hgiven => ?_
  split
  · exact .unquoted rfl
  · split
    · exact .unquoted rfl
    · rename_i hfind
      have hwithin := within_of_find?_eq_none hfind
      have hlen := GivenNames.length_of_assign hgiven
      rw [LabelledShape.build_eq_pure
        ((length_selectAxes (hlen.symm ▸ hwithin)).trans (length_selectAxes hwithin).symm)]
      exact .answer _

end Permutation

section Contraction

def ContractionFault (f : Fault) : Prop := f ∈ [.nameKind, .axisOutside, .axisOversized]

theorem ends_dimensionAt {V : Violation → Prop} (dims : Shape) (axis : ℤ) :
    (dimensionAt dims axis).Ends V ContractionFault := by
  unfold dimensionAt
  split
  · exact .answer _
  · refine .fault ?_
    split <;> simp [ContractionFault]

inductive ClashViolation : Violation → Prop
  | clash (i d j e : ℤ) : ClashViolation (.contractionClash i d j e)

theorem ends_checkContracted (lhs rhs : Shape) (axes : ℤ × ℤ) :
    (checkContracted lhs rhs axes).Ends ClashViolation ContractionFault := by
  refine (ends_dimensionAt lhs axes.1).bind fun lhsDim _ =>
    (ends_dimensionAt rhs axes.2).bind fun rhsDim _ => ?_
  split
  · exact .answer ()
  · exact .rejection (.clash _ _ _ _)

inductive ContractionViolation (lhs : Shape) (lhsAxes : List ℤ) (lhsNames : GivenNames)
    (rhs : Shape) (rhsAxes : List ℤ) (rhsNames : GivenNames) : Violation → Prop
  | count : ContractionViolation lhs lhsAxes lhsNames rhs rhsAxes rhsNames
    (.contractionCount lhsAxes rhsAxes)
  | clash {v : Violation} : ClashViolation v →
    ContractionViolation lhs lhsAxes lhsNames rhs rhsAxes rhsNames v
  | lhsNames {v : Violation} : NamingViolation lhs lhsNames v →
    ContractionViolation lhs lhsAxes lhsNames rhs rhsAxes rhsNames v
  | rhsNames {v : Violation} : NamingViolation rhs rhsNames v →
    ContractionViolation lhs lhsAxes lhsNames rhs rhsAxes rhsNames v
  | repeated {left right : NamedShape} :
    (removeAxes lhs lhsAxes lhsNames).result = .ok left →
    (removeAxes rhs rhsAxes rhsNames).result = .ok right →
    ContractionViolation lhs lhsAxes lhsNames rhs rhsAxes rhsNames
      (.contractionNames (left.append right).names (repeatedNames (left.append right).names))

theorem ends_dot_contraction (lhs : Shape) (lhsAxes : List ℤ) (lhsNames : GivenNames)
    (rhs : Shape) (rhsAxes : List ℤ) (rhsNames : GivenNames) :
    (dot lhs lhsAxes lhsNames rhs rhsAxes rhsNames).Ends
      (ContractionViolation lhs lhsAxes lhsNames rhs rhsAxes rhsNames) ContractionFault := by
  have hkind : ∀ f, f = .nameKind → ContractionFault f := by simp [ContractionFault]
  unfold dot
  split
  · exact .rejection .count
  · refine (Ends.forM fun axes _ => (ends_checkContracted lhs rhs axes).mono_violation
      fun _ => .clash).bind fun _ _ => ?_
    refine ((ends_removeAxes_naming lhs lhsAxes lhsNames).mono (fun _ => .lhsNames) hkind).bind
      fun left hleft => ?_
    refine ((ends_removeAxes_naming rhs rhsAxes rhsNames).mono (fun _ => .rhsNames) hkind).bind
      fun right hright => ?_
    dsimp only
    split
    · exact .answer _
    · exact .rejection (.repeated hleft hright)

theorem ends_dot {lhs rhs : Shape} {lhsNames rhsNames : GivenNames} (hl : lhsNames.All P)
    (hr : rhsNames.All P) (lhsAxes rhsAxes : List ℤ) :
    (dot lhs lhsAxes lhsNames rhs rhsAxes rhsNames).Ends (Violation.Quotes P) ContractionFault := by
  refine (ends_dot_contraction lhs lhsAxes lhsNames rhs rhsAxes rhsNames).mono_violation
    fun v hv => ?_
  cases hv with
  | count => exact .of_unquoted rfl
  | clash h =>
    cases h
    exact .of_unquoted rfl
  | lhsNames h => exact h.quotes hl
  | rhsNames h => exact h.quotes hr
  | repeated _ _ => exact .of_unquoted rfl

end Contraction

section Padding

def EntryFault (parts : ℕ) (f : Fault) : Prop := ∃ got, f = wrongLength parts got

theorem Padding.ends_ofList {V : Violation → Prop} (entry : List ℤ) :
    (Padding.ofList entry).Ends V (EntryFault 3) := by
  unfold Padding.ofList
  split
  · exact .answer _
  · exact .fault ⟨_, rfl⟩

theorem EdgePadding.ends_ofList {V : Violation → Prop} (entry : List ℤ) :
    (EdgePadding.ofList entry).Ends V (EntryFault 2) := by
  unfold EdgePadding.ofList
  split
  · exact .answer _
  · exact .fault ⟨_, rfl⟩

theorem ends_padAxes (dims : Shape) (paddings : List Padding) :
    (padAxes dims paddings).Ends (Violation.Quotes P) F := by
  unfold padAxes
  split
  · exact .unquoted rfl
  · exact .answer _

theorem ends_padEntries (dims : Shape) (entries : List (List ℤ)) :
    (padEntries dims entries).Ends (Violation.Quotes P) (EntryFault 3) := by
  unfold padEntries
  split
  · exact .unquoted rfl
  · exact (Ends.mapM fun entry _ => Padding.ends_ofList entry).bind fun paddings _ =>
      ends_padAxes dims paddings

theorem length_of_padAxes {paddings : List Padding} {padded : Shape}
    (h : (padAxes dims paddings).result = .ok padded) : padded.length = dims.length := by
  unfold padAxes at h
  split at h
  · exact absurd h (result_reject_ne_ok _ _)
  · rename_i hlen
    obtain rfl := result_pure_eq_ok.mp h
    rw [List.length_zipWith, not_not.mp hlen, Nat.min_self]

end Padding

section Slicing

def SliceFault (f : Fault) : Prop := ∃ stride axis, f = .nonPositiveStride stride axis

theorem Slice.ends_size (s : Slice) (axis : ℕ) :
    (s.size axis).Ends (Violation.Quotes P) SliceFault := by
  unfold Slice.size
  split
  · exact .fault ⟨_, _, rfl⟩
  · split
    · exact .unquoted rfl
    · exact .answer _

theorem ends_slice (start limit stride : List ℤ) (dims : Option Shape) :
    (slice start limit stride dims).Ends (Violation.Quotes P) SliceFault := by
  unfold slice
  dsimp only
  split
  · exact Ends.mapM fun entry _ => entry.1.ends_size entry.2
  · exact .unquoted rfl

end Slicing

section Window

def WindowFault (f : Fault) : Prop := ∃ part entries, f = .nonPositiveEntry part entries

theorem ends_checkEntries (part : WindowPart) (dims : Shape) (entries : List ℤ) :
    (checkEntries part dims entries).Ends (Violation.Quotes P) WindowFault := by
  unfold checkEntries
  split
  · exact .unquoted rfl
  · split
    · exact .answer ()
    · exact .fault ⟨_, _, rfl⟩

theorem ends_windowPositions (dims extents strides : List ℤ) :
    (windowPositions dims extents strides).Ends (Violation.Quotes P) WindowFault :=
  (ends_checkEntries .extent dims extents).bind fun _ _ =>
    (ends_checkEntries .stride dims strides).bind fun _ _ => .answer _

theorem ends_balancedPadding (dims extents : List ℤ) (strides : Option (List ℤ)) :
    (balancedPadding dims extents strides).Ends (Violation.Quotes P) WindowFault := by
  refine (ends_checkEntries .extent dims extents).bind fun _ _ => ?_
  cases strides with
  | none => exact .answer _
  | some strides => exact (ends_checkEntries .stride dims strides).bind fun _ _ => .answer _

end Window

section Convolution

def ConvolutionFault (f : Fault) : Prop := f = .nameKind ∨ EntryFault 2 f ∨ f = .zeroStride

theorem ends_filterPositions {V : Violation → Prop} (dim extent stride : ℤ) :
    (filterPositions dim extent stride).Ends V (· = .zeroStride) := by
  unfold filterPositions
  split
  · exact .fault rfl
  · exact .answer _

theorem ends_convolutionEdges (input kernel strides : List ℤ) (padding : List (List ℤ)) :
    (convolutionEdges input kernel strides padding).Ends (Violation.Quotes P) (EntryFault 2) := by
  unfold convolutionEdges
  dsimp only
  split
  · exact .unquoted rfl
  · split
    · exact .unquoted rfl
    · split
      · exact .unquoted rfl
      · exact Ends.mapM fun entry _ => EdgePadding.ends_ofList entry

theorem ends_convolve {input : Shape} (hnames : names.All P) (kernel strides : List ℤ)
    (padding : List (List ℤ)) :
    (convolve input names kernel strides padding).Ends (Violation.Quotes P) ConvolutionFault := by
  rw [convolve_eq_bind]
  refine ((ends_assign hnames).mono_fault fun _ => Or.inl).bind fun given hgiven => ?_
  refine ((ends_convolutionEdges input kernel strides padding).mono_fault
    fun _ hf => Or.inr (Or.inl hf)).bind fun edges hedges => ?_
  refine (ends_padAxes _ _).bind fun padded hpadded => ?_
  refine (Ends.mapM fun axis _ => (ends_filterPositions _ _ _).mono_fault
    fun _ hf => Or.inr (Or.inr hf)).bind fun spatial hspatial => ?_
  obtain ⟨-, htwo, hkernel, hstrides, -⟩ := result_convolutionEdges_eq_ok.mp hedges
  have hpad := length_of_padAxes hpadded
  have hlen := (length_of_mapM hspatial).trans
    (length_windowAxes (by simp only [List.length_drop]; omega)
      (by simp only [List.length_drop]; omega))
  have hgivenlen := GivenNames.length_of_assign hgiven
  rw [LabelledShape.build_eq_pure (by simp at hlen ⊢; omega)]
  exact .answer _

end Convolution

end TensorShape
