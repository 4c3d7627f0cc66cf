import TensorShape.Proofs.Attachment
import TensorShape.Proofs.Axis.Spelling
import TensorShape.Proofs.Diagnostic.Messages

/-! # Messages tell what a call is rejected for

Where a call is rejected with a code of its own, the message quotes values of the call: two names, a
name and a list of names, references with the rank, or shapes. Two messages of such rejections are
the same exactly if the calls have these values in common.
-/

namespace TensorShape

open Outcome

/-- Of two calls that are rejected with the code, the messages are the same exactly if the quoted
values are. -/
def Identifies {ι α β : Type} (call : ι → Outcome α) (c : Code) (quoted : ι → β) : Prop :=
  ∀ i j d e, (call i).result = .error (.rejected d) → (call j).result = .error (.rejected e) →
    d.code = c → e.code = c → (d.message = e.message ↔ quoted i = quoted j)

/-- A rejection is the diagnostic of a violation, which has the code and can be reported. -/
theorem Outcome.Ends.exists_reported {α : Type} {x : Outcome α} {V : Violation → Prop}
    {F : Fault → Prop} {d : Diagnostic} (h : x.Ends V F)
    (hd : x.result = .error (.rejected d)) :
    ∃ v, V v ∧ v.Quotes Value.Listable ∧ d.code = v.code ∧ d.message = v.message := by
  cases h with
  | answer a => cases hd
  | @rejection v hv =>
    rcases result_reject (α := α) v with ⟨d', hd', hreject⟩ | ⟨defect, hreject⟩
    · cases hreject.symm.trans hd
      exact ⟨v, hv, Violation.listable_of_diagnose hd', Violation.code_message_of_diagnose hd'⟩
    · cases hreject.symm.trans hd
  | fault hf => cases hd

/-- Messages identify what they quote if those of the violations do that a call may be rejected
for. -/
theorem identifies_of_ends {ι α β : Type} {call : ι → Outcome α} {c : Code} {quoted : ι → β}
    {V : ι → Violation → Prop} {F : Fault → Prop} (hends : ∀ i, (call i).Ends (V i) F)
    (hmessage : ∀ i j v w, V i v → V j w → v.code = c → w.code = c → v.Quotes Value.Listable →
      w.Quotes Value.Listable → (v.message = w.message ↔ quoted i = quoted j)) :
    Identifies call c quoted := by
  rintro i j d e hd he rfl hcode
  obtain ⟨v, hv, hvlisted, hvcode, hvmessage⟩ := (hends i).exists_reported hd
  obtain ⟨w, hw, hwlisted, hwcode, hwmessage⟩ := (hends j).exists_reported he
  rw [hvmessage, hwmessage]
  exact hmessage i j v w hv hw hvcode.symm (hwcode.symm.trans hcode) hvlisted hwlisted

theorem identifies_merge : Identifies (fun (m, n) => AxisName.merge m n) .nameConflict id := by
  refine identifies_of_ends (F := fun _ => False)
    (fun names => ends_merge_conflict names.1 names.2) ?_
  rintro ⟨_, _⟩ ⟨_, _⟩ _ _ ⟨s, t⟩ ⟨s', t'⟩ - - - -
  simp only [Violation.message_nameConflict_inj, id, Prod.mk.injEq, Option.some.injEq]

section Lookup

variable {dims : Shape} {names : GivenNames} {axis : AxisRef} {axes : List AxisRef} {v : Violation}

theorem LookupViolation.eq_unknownName (h : LookupViolation dims names axis v)
    (hcode : v.code = .unknownName) :
    ∃ given s, names = some given ∧ axis = .name s ∧ v = .unknownName s given := by
  cases h with
  | unknown given s => exact ⟨given, s, rfl, rfl, rfl⟩
  | _ => cases hcode

theorem identifies_resolve :
    Identifies (fun (dims, names, axis) => AxisRef.resolve dims names axis) .unknownName
      fun (_, names, axis) => (axis, names) := by
  refine identifies_of_ends (fun x => ends_resolve_lookup x.1 x.2.1 x.2.2) ?_
  rintro ⟨dims, names, axis⟩ ⟨dims', names', axis'⟩ v w hv hw hvcode hwcode hlisted hlisted'
  obtain ⟨given, s, rfl, rfl, rfl⟩ := hv.eq_unknownName hvcode
  obtain ⟨given', s', rfl, rfl, rfl⟩ := hw.eq_unknownName hwcode
  simp only [Violation.message_unknownName_inj hlisted hlisted', Prod.mk.injEq,
    AxisRef.name.injEq, Option.some.injEq]

theorem AxisRef.ofValue_toValue_of_resolve {i : ℤ}
    (h : (axis.resolve dims names).result = .ok i) : AxisRef.ofValue axis.toValue = axis := by
  cases axis with
  | other v => cases h
  | _ => rfl

theorem AxisRef.map_toValue_inj {refs refs' : List AxisRef}
    (h : ∀ ref ∈ refs, AxisRef.ofValue ref.toValue = ref)
    (h' : ∀ ref ∈ refs', AxisRef.ofValue ref.toValue = ref) :
    refs.map AxisRef.toValue = refs'.map AxisRef.toValue ↔ refs = refs' := by
  have hread {refs : List AxisRef} (h : ∀ ref ∈ refs, AxisRef.ofValue ref.toValue = ref) :
      (refs.map AxisRef.toValue).map AxisRef.ofValue = refs := by
    rw [List.map_map]
    exact (List.map_congr_left h).trans (List.map_id refs)
  constructor
  · intro heq
    rw [← hread h, heq, hread h']
  · rintro rfl
    rfl

theorem ListingViolation.eq_repeatedAxes (h : ListingViolation dims names axes v)
    (hcode : v.code = .duplicateAxes) :
    (∀ ref ∈ axes, AxisRef.ofValue ref.toValue = ref) ∧
      ∃ resolved, v = .repeatedAxes axes dims.length resolved := by
  cases h with
  | lookup _ hlookup => cases hlookup <;> cases hcode
  | repeated hresolved =>
    refine ⟨fun ref href => ?_, _, rfl⟩
    obtain ⟨i, hi⟩ := exists_result_of_mapM hresolved ref href
    exact AxisRef.ofValue_toValue_of_resolve hi

theorem identifies_resolveAxes :
    Identifies (fun (dims, axes, names) => resolveAxes dims axes names) .duplicateAxes
      fun (dims, axes, _) => (axes, dims.length) := by
  refine identifies_of_ends (fun x => ends_resolveAxes_listing x.1 x.2.1 x.2.2) ?_
  rintro ⟨dims, axes, names⟩ ⟨dims', axes', names'⟩ v w hv hw hvcode hwcode hlisted hlisted'
  obtain ⟨hread, resolved, rfl⟩ := hv.eq_repeatedAxes hvcode
  obtain ⟨hread', resolved', rfl⟩ := hw.eq_repeatedAxes hwcode
  simp only [Violation.message_repeatedAxes_inj hlisted hlisted',
    AxisRef.map_toValue_inj hread hread', Prod.mk.injEq]

end Lookup

section Operands

variable {lhs rhs source target : Shape} {lhsNames rhsNames : GivenNames} {lhsAxes rhsAxes : List ℤ}
  {axes : List ℤ} {v : Violation}

theorem ContractionViolation.eq_contractionNames
    (h : ContractionViolation lhs lhsAxes lhsNames rhs rhsAxes rhsNames v)
    (hcode : v.code = .duplicateNames) : ∃ repeated, v =
      .contractionNames ((lhsNames.on lhs).contract lhsAxes (rhsNames.on rhs) rhsAxes).names
        repeated := by
  cases h with
  | count => cases hcode
  | clash h =>
    cases h
    cases hcode
  | lhsNames h | rhsNames h => cases h.code_eq.symm.trans hcode
  | repeated hleft hright =>
    obtain ⟨-, rfl⟩ := eq_erase_of_removeAxes hleft
    obtain ⟨-, rfl⟩ := eq_erase_of_removeAxes hright
    exact ⟨_, rfl⟩

theorem identifies_dot :
    Identifies (fun (lhs, lhsAxes, lhsNames, rhs, rhsAxes, rhsNames) =>
      dot lhs lhsAxes lhsNames rhs rhsAxes rhsNames) .duplicateNames
      fun (lhs, lhsAxes, lhsNames, rhs, rhsAxes, rhsNames) =>
        ((GivenNames.on lhsNames lhs).contract lhsAxes
          (GivenNames.on rhsNames rhs) rhsAxes).names := by
  refine identifies_of_ends (fun x =>
    ends_dot_contraction x.1 x.2.1 x.2.2.1 x.2.2.2.1 x.2.2.2.2.1 x.2.2.2.2.2) ?_
  rintro _ _ v w hv hw hvcode hwcode - -
  obtain ⟨repeated, rfl⟩ := hv.eq_contractionNames hvcode
  obtain ⟨repeated', rfl⟩ := hw.eq_contractionNames hwcode
  exact Violation.message_contractionNames_inj

theorem PairingViolation.eq_pairClash (h : PairingViolation lhs lhsNames rhs rhsNames v)
    (hcode : v.code = .broadcastIncompatible) : v = .pairClash lhs rhs := by
  cases h with
  | lhsNames h | rhsNames h => cases h.code_eq.symm.trans hcode
  | join h =>
    cases h with
    | clash => rfl
    | names h => cases h.code_eq.symm.trans hcode

theorem identifies_broadcast :
    Identifies (fun (lhs, lhsNames, rhs, rhsNames) => broadcast lhs lhsNames rhs rhsNames)
      .broadcastIncompatible fun (lhs, _, rhs, _) => (lhs, rhs) := by
  refine identifies_of_ends (fun x => ends_broadcast_pairing x.1 x.2.1 x.2.2.1 x.2.2.2) ?_
  rintro ⟨lhs, lhsNames, rhs, rhsNames⟩ ⟨lhs', lhsNames', rhs', rhsNames'⟩ v w hv hw hvcode hwcode
    - -
  obtain rfl := hv.eq_pairClash hvcode
  obtain rfl := hw.eq_pairClash hwcode
  simp only [Violation.message_pairClash_inj, Prod.mk.injEq]

theorem MappingViolation.eq_mappingClash (h : MappingViolation source target axes v)
    (hcode : v.code = .broadcastIncompatible) : v = .mappingClash source target axes := by
  cases h with
  | clash => rfl
  | _ => cases hcode

theorem identifies_checkMapping :
    Identifies (fun (source, target, axes) => checkMapping source target axes)
      .broadcastIncompatible id := by
  refine identifies_of_ends (F := fun _ => False)
    (fun x => ends_checkMapping_mapping x.1 x.2.1 x.2.2) ?_
  rintro ⟨source, target, axes⟩ ⟨source', target', axes'⟩ v w hv hw hvcode hwcode - -
  obtain rfl := hv.eq_mappingClash hvcode
  obtain rfl := hw.eq_mappingClash hwcode
  simp only [Violation.message_mappingClash_inj, id, Prod.mk.injEq]

end Operands

/-- The message of a rejection tells the values that it quotes, whatever characters names are made
of. A conflict tells both names; an unknown name tells itself and all names that were given, a
missing name apart from one that spells it; repeated axes tell the references and the rank; a
contraction tells all names that it would leave; and shapes that cannot be broadcast tell
themselves, under a mapping with its axes. -/
theorem messages_identify_quoted_values :
    Identifies (fun (m, n) => AxisName.merge m n) .nameConflict id ∧
    Identifies (fun (dims, names, axis) => AxisRef.resolve dims names axis) .unknownName
      (fun (_, names, axis) => (axis, names)) ∧
    Identifies (fun (dims, axes, names) => resolveAxes dims axes names) .duplicateAxes
      (fun (dims, axes, _) => (axes, dims.length)) ∧
    Identifies
      (fun (lhs, lhsAxes, lhsNames, rhs, rhsAxes, rhsNames) =>
        dot lhs lhsAxes lhsNames rhs rhsAxes rhsNames) .duplicateNames
      (fun (lhs, lhsAxes, lhsNames, rhs, rhsAxes, rhsNames) =>
        ((GivenNames.on lhsNames lhs).contract lhsAxes
          (GivenNames.on rhsNames rhs) rhsAxes).names) ∧
    Identifies (fun (lhs, lhsNames, rhs, rhsNames) => broadcast lhs lhsNames rhs rhsNames)
      .broadcastIncompatible (fun (lhs, _, rhs, _) => (lhs, rhs)) ∧
    Identifies (fun (source, target, axes) => checkMapping source target axes)
      .broadcastIncompatible id :=
  ⟨identifies_merge, identifies_resolve, identifies_resolveAxes, identifies_dot,
    identifies_broadcast, identifies_checkMapping⟩

/-- One name that reads like the end of a name and the start of another, and a missing name, against
three names; and the same references into two shapes of one rank. -/
theorem messages_identify_quoted_values_quote_in_name :
    let three : GivenNames := .ofNames (some [some "a", some "b", some "None"])
    let two : GivenNames := .ofNames (some [some "a', 'b", none])
    let back : GivenNames := .ofNames (some [none, none])
    (∃ d e, (AxisRef.resolve [2, 3, 4] three (.name "c")).result = .error (.rejected d) ∧
      (AxisRef.resolve [2, 3] two (.name "c")).result = .error (.rejected e) ∧
        d.code = .unknownName ∧ e.code = .unknownName ∧ d.message ≠ e.message) ∧
    ∃ d e, (resolveAxes [2, 3] [.index 1, .index (-1)] back).result = .error (.rejected d) ∧
      (resolveAxes [4, 5] [.index 1, .index (-1)] back).result = .error (.rejected e) ∧
        d.code = .duplicateAxes ∧ e.code = .duplicateAxes ∧ d.message = e.message := by
  intro three two back
  obtain ⟨-, hlookup, hlisting, -⟩ := messages_identify_quoted_values
  have hmeans (dims : Shape) (h : dims.length = 2) :
      List.Forall₂ (AxisRef.Means dims.length [none, none]) [.index 1, .index (-1)] [1, 1] := by
    rw [h]
    exact .cons (.front (by decide) (by decide)) (.cons (.back (by decide) (by decide)) .nil)
  constructor
  · obtain ⟨d, hd, hdcode⟩ : (AxisRef.resolve [2, 3, 4] three (.name "c")).RejectedWith
        .unknownName := (AxisRef.Meaningless.name (by decide)).failsAs_resolve.rejectedWith rfl
    obtain ⟨e, he, hecode⟩ : (AxisRef.resolve [2, 3] two (.name "c")).RejectedWith
        .unknownName := (AxisRef.Meaningless.name (by decide)).failsAs_resolve.rejectedWith rfl
    refine ⟨d, e, hd, he, hdcode, hecode, fun heq => ?_⟩
    have hsame := (hlookup (_, three, _) (_, two, _) d e hd he hdcode hecode).mp heq
    simp [three, two, GivenNames.ofNames] at hsame
  · obtain ⟨d, hd, hdcode⟩ : (resolveAxes [2, 3] [.index 1, .index (-1)] back).RejectedWith
        .duplicateAxes :=
      (LookupFlaw.collision (hmeans [2, 3] rfl) (by decide)).failsAs.rejectedWith rfl
    obtain ⟨e, he, hecode⟩ : (resolveAxes [4, 5] [.index 1, .index (-1)] back).RejectedWith
        .duplicateAxes :=
      (LookupFlaw.collision (hmeans [4, 5] rfl) (by decide)).failsAs.rejectedWith rfl
    exact ⟨d, e, hd, he, hdcode, hecode,
      (hlisting (_, _, back) (_, _, back) d e hd he hdcode hecode).mpr rfl⟩

end TensorShape
