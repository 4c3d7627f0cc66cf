import TensorShape.Proofs.Diagnostic.Reporting

/-! # The data of reported violations

The diagnostic of a violation names its operation first, and then has the values of the violation
under their own keys. Every value is stored as it stands.
-/

namespace TensorShape

/-- Entries of values that are stored as they stand are stored as they stand. -/
theorem map_toValue_of_mapM_checkEntry {entries : List (String × Value)}
    {data : List (String × Payload)} (h : ∀ e ∈ entries, e.2.IsKept)
    (hdata : (entries.map fun e => (Value.text e.1, e.2)).mapM checkEntry = .ok data) :
    data.map (Prod.map id Payload.toValue) = entries := by
  induction entries generalizing data with
  | nil =>
    cases hdata
    rfl
  | cons e entries ih =>
    rw [List.forall_mem_cons] at h
    obtain ⟨⟨payload, hpayload⟩, h⟩ := h
    rw [List.map_cons, List.mapM_cons] at hdata
    obtain ⟨first, hfirst, hdata⟩ := exists_of_bind_eq_ok hdata
    obtain ⟨rest, hrest, hdata⟩ := exists_of_bind_eq_ok hdata
    rw [checkEntry, ← hpayload, Value.checkValue_toValue] at hfirst
    cases hfirst
    cases hdata
    rw [List.map_cons, ih h hrest, Prod.map_apply, hpayload]
    rfl

namespace Violation

variable {v : Violation}

theorem isKept_of_mem_data (h : ∀ given ∈ v.givenValues, given.IsKeptItem) :
    ∀ entry ∈ v.data, entry.2.IsKept := by
  intro entry he
  rcases v.isKept_or_eq_givenValues entry he with hkept | hgiven
  · exact hkept
  · exact hgiven ▸ Value.isKept_tuple h

theorem data_of_diagnose (h : ∀ given ∈ v.givenValues, given.IsKeptItem) {d : Diagnostic}
    (hd : v.diagnose.result = .ok d) :
    d.data.map (Prod.map id Payload.toValue) =
      ("operation", .text v.operation.text) :: v.data := by
  obtain ⟨-, hdata⟩ := Draft.channel_data_of_build (build_of_diagnose hd)
  rw [draft_data_eq] at hdata
  refine map_toValue_of_mapM_checkEntry ?_ hdata
  rw [List.forall_mem_cons]
  exact ⟨Value.isKept_text _, isKept_of_mem_data h⟩

end Violation

namespace Outcome

variable {α : Type}

/-- The operation rejects the call with a diagnostic of the code. The data of the diagnostic is the
operation and then what is given here. -/
def RejectedAs (x : Outcome α) (op : Operation) (c : Code) (data : List (String × Value)) : Prop :=
  ∃ d, x.result = .error (.rejected d) ∧ d.code = c ∧
    d.data.map (Prod.map id Payload.toValue) = ("operation", .text op.text) :: data

end Outcome

theorem Violation.rejectedAs_reject {α : Type} {v : Violation}
    (h : ∀ given ∈ v.givenValues, given.IsKeptItem) :
    (reject v : Outcome α).RejectedAs v.operation v.code v.data := by
  obtain ⟨d, hd, hcode, -⟩ := diagnose_eq fun given hgiven => (h given hgiven).isItem
  exact ⟨d, by rw [reject, hd]; rfl, hcode, data_of_diagnose h (congrArg Outcome.result hd)⟩

end TensorShape
