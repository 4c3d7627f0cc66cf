import TensorShape.Proofs.Axis.Naming
import TensorShape.Proofs.Ending.Operations

/-! # One record for each rejection

A call on arguments of the right kinds logs nothing, unless it is rejected with a diagnostic; then
it logs the one line that the diagnostic tells: its operation, its code and its message. Every
violation that such a call finds can be reported, since the names and axes it quotes can be stored.
-/

namespace TensorShape

def AxisRef.IsKey : AxisRef → Prop
  | .other _ => False
  | _ => True

/-- An operation with arguments of the right kinds. -/
inductive Call where
  | resolve (dims : Shape) (axis : AxisRef) (h : axis.IsKey) (names : Option (List AxisName))
  | resolveAll (dims : Shape) (axes : List AxisRef) (h : ∀ axis ∈ axes, axis.IsKey)
    (names : Option (List AxisName))
  | assign (names : Option (List AxisName)) (dims : Shape)
  | merge (lhs rhs : AxisName)
  | checkMapping (source target : Shape) (axes : List ℤ)
  | trailingAxes (source target : Shape)
  | broadcast (lhs : Shape) (lhsNames : Option (List AxisName)) (rhs : Shape)
    (rhsNames : Option (List AxisName))
  | remove (dims : Shape) (axes : List ℤ) (names : Option (List AxisName))
  | dot (lhs : Shape) (lhsAxes : List ℤ) (lhsNames : Option (List AxisName)) (rhs : Shape)
    (rhsAxes : List ℤ) (rhsNames : Option (List AxisName))
  | permute (dims : Shape) (permutation : List ℤ) (names : Option (List AxisName))
  | removeUnit (dims : Shape) (axes : List ℤ) (names : Option (List AxisName))
  | pad (dims : Shape) (entries : List (List ℤ))
  | slice (start limit stride : List ℤ) (dims : Option Shape)
  | checkEntries (part : WindowPart) (dims : Shape) (entries : List ℤ)
  | windowPositions (dims extents strides : List ℤ)
  | balancedPadding (dims extents : List ℤ) (strides : Option (List ℤ))
  | convolve (input : Shape) (names : Option (List AxisName)) (kernel strides : List ℤ)
    (padding : List (List ℤ))

namespace Call

def Answer : Call → Type
  | resolve .. => ℤ
  | resolveAll .. | trailingAxes .. => List ℤ
  | assign .. => List AxisName
  | merge .. => AxisName
  | checkMapping .. | checkEntries .. => Unit
  | broadcast .. | remove .. | dot .. | permute .. | removeUnit .. | convolve .. => NamedShape
  | pad .. | slice .. | windowPositions .. => Shape
  | balancedPadding .. => List EdgePadding

def perform : (c : Call) → Outcome c.Answer
  | resolve dims axis _ names => axis.resolve dims (.ofNames names)
  | resolveAll dims axes _ names => resolveAxes dims axes (.ofNames names)
  | assign names dims => (GivenNames.ofNames names).assign dims
  | merge lhs rhs => lhs.merge rhs
  | checkMapping source target axes => TensorShape.checkMapping source target axes
  | trailingAxes source target => TensorShape.trailingAxes source target
  | broadcast lhs lhsNames rhs rhsNames =>
    TensorShape.broadcast lhs (.ofNames lhsNames) rhs (.ofNames rhsNames)
  | remove dims axes names => removeAxes dims axes (.ofNames names)
  | dot lhs lhsAxes lhsNames rhs rhsAxes rhsNames =>
    TensorShape.dot lhs lhsAxes (.ofNames lhsNames) rhs rhsAxes (.ofNames rhsNames)
  | permute dims permutation names => TensorShape.permute dims permutation (.ofNames names)
  | removeUnit dims axes names => removeUnitAxes dims axes (.ofNames names)
  | pad dims entries => padEntries dims entries
  | slice start limit stride dims => TensorShape.slice start limit stride dims
  | checkEntries part dims entries => TensorShape.checkEntries part dims entries
  | windowPositions dims extents strides => TensorShape.windowPositions dims extents strides
  | balancedPadding dims extents strides => TensorShape.balancedPadding dims extents strides
  | convolve input names kernel strides padding =>
    TensorShape.convolve input (.ofNames names) kernel strides padding

end Call

namespace Outcome

variable {α : Type} {x : Outcome α} {F : Fault → Prop}

/-- Nothing is logged, unless a diagnostic ends the call; then it is a validated one, and its line
is logged and nothing else. No fault tells that a diagnostic could not be built. -/
def Reported (x : Outcome α) : Prop :=
  match x.result with
  | .ok _ => x.log = []
  | .error (.fault f) => x.log = [] ∧ ∀ defect, f ≠ .defect defect
  | .error (.rejected d) => d.channel = .validation ∧
      ∃ op, d.data.lookup "operation" = some (.text op) ∧
        x.log.map LogRecord.line =
          [s!"DEBUG:shapealg.policy:rejected {op} ({d.code.text}): {d.message}"]

theorem reported_reject {v : Violation} (h : v.Quotes Value.IsItem) :
    (reject v : Outcome α).Reported := by
  obtain ⟨d, hd, hcode, hmessage⟩ := Violation.diagnose_eq h
  have hreject : (reject v : Outcome α) = ⟨[v.record], .error (.rejected d)⟩ := by
    rw [reject, hd]
    rfl
  have hresult := congrArg Outcome.result hd
  rw [hreject]
  refine ⟨Violation.channel_of_diagnose hresult, v.operation.text,
    Violation.lookup_operation hresult, ?_⟩
  rw [hcode, hmessage]
  rfl

theorem Ends.reported (h : x.Ends (Violation.Quotes Value.IsItem) F)
    (hF : ∀ f, F f → ∀ defect, f ≠ .defect defect) : x.Reported := by
  cases h with
  | answer a => rfl
  | rejection hv => exact reported_reject hv
  | fault hf => exact ⟨rfl, hF _ hf⟩

end Outcome

theorem GivenNames.All.ofNames (names : Option (List AxisName)) :
    (GivenNames.ofNames names).All Value.IsItem := by
  intro given hgiven v hv
  obtain ⟨ns, -, rfl⟩ := Option.map_eq_some_iff.mp hgiven
  obtain ⟨n, -, rfl⟩ := List.mem_map.mp hv
  exact (Value.isKeptItem_name n).isItem

theorem AxisRef.IsKey.isItem_toValue {axis : AxisRef} (h : axis.IsKey) : axis.toValue.IsItem := by
  cases axis with
  | other v => exact h.elim
  | _ => exact ⟨_, rfl⟩

section Faults

variable {f : Fault} {defect : Defect}

theorem LookupFault.ne_defect : LookupFault f → f ≠ .defect defect := by
  rintro (rfl | ⟨v, rfl⟩) h <;> cases h

theorem ContractionFault.ne_defect (h : ContractionFault f) : f ≠ .defect defect := by
  rintro rfl
  simp [ContractionFault] at h

theorem EntryFault.ne_defect {parts : ℕ} : EntryFault parts f → f ≠ .defect defect := by
  rintro ⟨got, rfl⟩
  unfold wrongLength
  split <;> exact Fault.noConfusion

theorem SliceFault.ne_defect : SliceFault f → f ≠ .defect defect := by
  rintro ⟨stride, axis, rfl⟩ h
  cases h

theorem WindowFault.ne_defect : WindowFault f → f ≠ .defect defect := by
  rintro ⟨part, entries, rfl⟩ h
  cases h

theorem ConvolutionFault.ne_defect : ConvolutionFault f → f ≠ .defect defect := by
  rintro (rfl | hentry | rfl)
  · exact Fault.noConfusion
  · exact hentry.ne_defect
  · exact Fault.noConfusion

end Faults

namespace Call

/-- Every call answers, is rejected for a violation that can be reported, or ends with a fault that
is no defect. -/
theorem ends_perform (c : Call) :
    c.perform.Ends (Violation.Quotes Value.IsItem) fun f => ∀ defect, f ≠ .defect defect := by
  have hkind : ∀ f, f = Fault.nameKind → ∀ defect, f ≠ .defect defect := by
    rintro f rfl defect h
    cases h
  cases c with
  | resolve dims axis h names =>
    exact (ends_resolve (.ofNames names) axis).mono_fault fun _ hf _ => hf.ne_defect
  | resolveAll dims axes h names =>
    exact (ends_resolveAxes (.ofNames names) fun axis ha =>
      (h axis ha).isItem_toValue).mono_fault fun _ hf _ => hf.ne_defect
  | assign names dims => exact (ends_assign (.ofNames names)).mono_fault hkind
  | merge lhs rhs => exact ends_merge lhs rhs
  | checkMapping source target axes => exact ends_checkMapping source target axes
  | trailingAxes source target => exact ends_trailingAxes source target
  | broadcast lhs lhsNames rhs rhsNames =>
    exact (ends_broadcast (.ofNames lhsNames) (.ofNames rhsNames)).mono_fault hkind
  | remove dims axes names => exact (ends_removeAxes (.ofNames names) axes).mono_fault hkind
  | dot lhs lhsAxes lhsNames rhs rhsAxes rhsNames =>
    exact (ends_dot (.ofNames lhsNames) (.ofNames rhsNames) lhsAxes rhsAxes).mono_fault
      fun _ hf _ => hf.ne_defect
  | permute dims permutation names =>
    exact (ends_permute (.ofNames names) permutation).mono_fault hkind
  | removeUnit dims axes names =>
    exact (ends_removeUnitAxes (.ofNames names) axes).mono_fault hkind
  | pad dims entries => exact (ends_padEntries dims entries).mono_fault fun _ hf _ => hf.ne_defect
  | slice start limit stride dims =>
    exact (ends_slice start limit stride dims).mono_fault fun _ hf _ => hf.ne_defect
  | checkEntries part dims entries =>
    exact (ends_checkEntries part dims entries).mono_fault fun _ hf _ => hf.ne_defect
  | windowPositions dims extents strides =>
    exact (ends_windowPositions dims extents strides).mono_fault fun _ hf _ => hf.ne_defect
  | balancedPadding dims extents strides =>
    exact (ends_balancedPadding dims extents strides).mono_fault fun _ hf _ => hf.ne_defect
  | convolve input names kernel strides padding =>
    exact (ends_convolve (.ofNames names) kernel strides padding).mono_fault
      fun _ hf _ => hf.ne_defect

/-- A call with arguments of the right kinds logs the line of the diagnostic that ends it and
nothing besides, and no diagnostic that it asks for has a defect. -/
theorem reported_perform (c : Call) : c.perform.Reported := c.ends_perform.reported fun _ h => h

example : (checkMapping [2] [3] [5]).perform.log.map LogRecord.line =
    ["DEBUG:shapealg.policy:rejected broadcast_check (axis_out_of_range): broadcast axis (5) " ++
      "invalid for target shape with rank 1"] := by
  decide +kernel

end Call

end TensorShape
