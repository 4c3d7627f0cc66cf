import Mathlib.Data.List.Basic
import TensorShape.Proofs.Diagnostic.Stored
import TensorShape.Proofs.Diagnostic.Update
import TensorShape.Violation

/-! # Reported violations

A violation is reported by a diagnostic of its own code and message as soon as the values that a
caller handed in unchecked can be items of a sequence: its message and notes are never blank, and
everything else that it is reported with can be stored, under keys of which no two are one.
-/

namespace TensorShape

theorem exists_of_bind_eq_ok {ε α β : Type} {x : Except ε α} {f : α → Except ε β} {b : β}
    (h : x >>= f = .ok b) : ∃ a, x = .ok a ∧ f a = .ok b := by
  cases x with
  | error e => cases h
  | ok a => exact ⟨a, rfl, h⟩

/-- New keys that differ from each other and from the old ones come after these. -/
theorem Entries.update_eq_append {entries : Entries} {further : List (String × Value)}
    (hnodup : (further.map Prod.fst).Nodup)
    (h : ∀ e ∈ further, ∀ old ∈ entries, sameText (.text e.1) old.1 = false) :
    update entries (further.map fun e => (.text e.1, e.2)) =
      entries ++ further.map fun e => (.text e.1, e.2) := by
  induction further generalizing entries with
  | nil => exact (List.append_nil entries).symm
  | cons e further ih =>
    rw [List.forall_mem_cons] at h
    rw [List.map_cons, List.nodup_cons] at hnodup
    rw [List.map_cons, update_cons, insert_of_forall e.2 h.1, ih hnodup.2, List.append_assoc]
    · rfl
    · intro e' he' old hold
      rcases List.mem_append.mp hold with hold | hold
      · exact h.2 e' he' old hold
      · obtain rfl := List.mem_singleton.mp hold
        have hne : e'.1 ≠ e.1 := fun heq => hnodup.1 (heq ▸ List.mem_map_of_mem he')
        simpa [sameText] using hne

theorem checkHelp_text? (help : Option String) :
    checkHelp ((help.map Value.text).getD .null) = .ok help := by
  cases help <;> rfl

/-- A draft whose parts pass their checks builds a diagnostic of its code and message. -/
theorem Draft.build_eq_ok {draft : Draft} {code : Code} {message : String} (channel : Channel)
    (hcode : draft.code = .code code) (hmessage : draft.message = .text message)
    (hblank : Text.isBlank message = false) (hhelp : ∃ help, checkHelp draft.help = .ok help)
    (hnotes : ∀ note ∈ draft.related, ∃ s, checkNote note = .ok s)
    (hdata : ∀ entry ∈ draft.data, (∃ s, checkKey entry.1 = .ok s) ∧ entry.2.Storable) :
    ∃ d, draft.build channel = .ok d ∧ d.code = code ∧ d.message = message := by
  obtain ⟨help, hh⟩ := hhelp
  obtain ⟨related, hr⟩ := exists_mapM_eq_ok hnotes
  have hentries : ∀ entry ∈ draft.data, ∃ e, checkEntry entry = .ok e := by
    intro entry he
    obtain ⟨⟨s, hs⟩, payload, hp⟩ := hdata entry he
    exact ⟨(s, payload), by rw [checkEntry, hs, hp]; rfl⟩
  obtain ⟨data, hd⟩ := exists_mapM_eq_ok hentries
  refine ⟨⟨channel, code, message, help, related, data⟩, ?_, rfl, rfl⟩
  rw [Draft.build, hcode, hmessage, hh, hr, hd, checkMessage, hblank]
  rfl

theorem Draft.channel_data_of_build {draft : Draft} {channel : Channel} {d : Diagnostic}
    (h : draft.build channel = .ok d) :
    d.channel = channel ∧ draft.data.mapM checkEntry = .ok d.data := by
  obtain ⟨code, -, h⟩ := exists_of_bind_eq_ok h
  obtain ⟨message, -, h⟩ := exists_of_bind_eq_ok h
  obtain ⟨help, -, h⟩ := exists_of_bind_eq_ok h
  obtain ⟨related, -, h⟩ := exists_of_bind_eq_ok h
  obtain ⟨data, hdata, h⟩ := exists_of_bind_eq_ok h
  cases h
  exact ⟨rfl, hdata⟩

theorem Outcome.result_ofBuild_eq_ok {built : Except Defect Diagnostic} {d : Diagnostic} :
    (ofBuild built).result = .ok d ↔ built = .ok d := by
  cases built with
  | ok d' => simp [ofBuild]
  | error e => exact ⟨nofun, nofun⟩

theorem Operation.isBlank_of_mem_related (op : Operation) :
    ∀ note ∈ op.related, Text.isBlank note = false := by
  cases op with
  | pairing =>
    exact List.forall_mem_cons.mpr ⟨Text.isBlank_ofList_cons (by decide),
      List.forall_mem_singleton.mpr (Text.isBlank_ofList_cons (by decide))⟩
  | _ => exact List.forall_mem_singleton.mpr (Text.isBlank_ofList_cons (by decide))

namespace Violation

theorem isBlank_append_of_left {s t : String} (h : Text.isBlank s = false) :
    Text.isBlank (s ++ t) = false := by
  simp only [Text.isBlank, String.toList_append, List.all_append] at h ⊢
  rw [h, Bool.false_and]

theorem isBlank_message (v : Violation) : Text.isBlank v.message = false := by
  unfold message
  cases v <;> dsimp only <;> (repeat with_reducible apply isBlank_append_of_left) <;>
    exact Text.isBlank_ofList_cons (by decide)

/-- The values of a violation that a caller handed in unchecked. -/
def givenValues : Violation → List Value
  | nameCount _ names | unknownName _ names => names
  | repeatedAxes axes _ _ => axes.map AxisRef.toValue
  | _ => []

variable {v : Violation}

theorem isKept_or_eq_givenValues (v : Violation) :
    ∀ entry ∈ v.data, entry.2.IsKept ∨ entry.2 = .tuple v.givenValues := by
  unfold data
  cases v <;> simp [givenValues]

theorem storable_of_mem_data (h : ∀ given ∈ v.givenValues, given.IsItem) :
    ∀ entry ∈ v.data, entry.2.Storable := by
  intro entry he
  rcases v.isKept_or_eq_givenValues entry he with hkept | hgiven
  · exact hkept.storable
  · exact hgiven ▸ Value.storable_tuple h

def draft (v : Violation) : Draft :=
  v.operation.template.draft v.code (.text v.message) ((v.help?.map Value.text).getD .null) <|
    Entries.update [(.text "operation", .text v.operation.text)]
      (v.data.map fun entry => (.text entry.1, entry.2))

/-- A violation is always logged, and its diagnostic comes out as its draft builds. -/
theorem diagnose_eq_build (v : Violation) :
    v.diagnose = ⟨[v.record], (Outcome.ofBuild (v.draft.build .validation)).result⟩ :=
  Template.diagnose_of_data (Template.data_eq_pure (Value.writes_keyed v.data) _) _ _ _

theorem draft_help (v : Violation) :
    v.draft.help = ((v.help?.or v.operation.help?).map Value.text).getD .null := by
  cases h : v.help? <;> simp [draft, Template.draft, Operation.template, h]

theorem checkNote_of_mem_related :
    ∀ note ∈ v.draft.related, ∃ s, checkNote note = .ok s := by
  intro note hn
  obtain ⟨s, hs, rfl⟩ := List.mem_map.mp hn
  exact ⟨s, by rw [checkNote, v.operation.isBlank_of_mem_related s hs]; rfl⟩

theorem nodup_keys (v : Violation) : ("operation" :: v.data.map Prod.fst).Nodup := by
  unfold data
  cases v with
  | windowCount part => cases part <;> simp [WindowPart.text]
  | _ => simp

/-- The data of a draft is its operation and then the values of the violation. -/
theorem draft_data_eq (v : Violation) :
    v.draft.data = (("operation", .text v.operation.text) :: v.data).map fun e =>
      (.text e.1, e.2) := by
  obtain ⟨hfirst, hrest⟩ := List.nodup_cons.mp v.nodup_keys
  refine Entries.update_eq_append hrest fun e he old hold => ?_
  obtain rfl := List.mem_singleton.mp hold
  have hne : e.1 ≠ "operation" := fun heq => hfirst (heq ▸ List.mem_map_of_mem he)
  simpa [Entries.sameText] using hne

theorem checkEntry_of_mem_data (h : ∀ given ∈ v.givenValues, given.IsItem) :
    ∀ entry ∈ v.draft.data, (∃ s, checkKey entry.1 = .ok s) ∧ entry.2.Storable := by
  rw [draft_data_eq, List.forall_mem_map, List.forall_mem_cons]
  refine ⟨⟨⟨_, rfl⟩, (Value.isKept_text _).storable⟩, fun given hg => ?_⟩
  exact ⟨⟨given.1, rfl⟩, storable_of_mem_data h given hg⟩

theorem build_of_diagnose {d : Diagnostic} (h : v.diagnose.result = .ok d) :
    v.draft.build .validation = .ok d := by
  rw [diagnose_eq_build] at h
  exact Outcome.result_ofBuild_eq_ok.mp h

theorem channel_of_diagnose {d : Diagnostic} (h : v.diagnose.result = .ok d) :
    d.channel = .validation :=
  (Draft.channel_data_of_build (build_of_diagnose h)).1

theorem lookup_operation {d : Diagnostic} (h : v.diagnose.result = .ok d) :
    d.data.lookup "operation" = some (.text v.operation.text) := by
  obtain ⟨-, hdata⟩ := Draft.channel_data_of_build (build_of_diagnose h)
  rw [draft_data_eq, List.map_cons, List.mapM_cons] at hdata
  obtain ⟨first, hfirst, hdata⟩ := exists_of_bind_eq_ok hdata
  obtain ⟨others, -, hdata⟩ := exists_of_bind_eq_ok hdata
  cases hfirst
  rw [← Except.ok.inj hdata]
  exact List.lookup_cons_self

theorem diagnose_eq (h : ∀ given ∈ v.givenValues, given.IsItem) :
    ∃ d, v.diagnose = ⟨[v.record], .ok d⟩ ∧ d.code = v.code ∧ d.message = v.message := by
  obtain ⟨d, hd, hcode, hmessage⟩ := v.draft.build_eq_ok .validation rfl rfl v.isBlank_message
    ⟨_, v.draft_help ▸ checkHelp_text? _⟩ checkNote_of_mem_related (checkEntry_of_mem_data h)
  exact ⟨d, by rw [diagnose_eq_build, hd]; rfl, hcode, hmessage⟩

theorem reject_eq {α : Type} (h : ∀ given ∈ v.givenValues, given.IsItem) :
    ∃ d, (reject v : Outcome α) = ⟨[v.record], .error (.rejected d)⟩ ∧
      d.code = v.code ∧ d.message = v.message := by
  obtain ⟨d, hd, hcode, hmessage⟩ := diagnose_eq h
  exact ⟨d, by rw [reject, hd]; rfl, hcode, hmessage⟩

theorem rejectedWith_reject {α : Type} (h : ∀ given ∈ v.givenValues, given.IsItem) :
    (reject v : Outcome α).RejectedWith v.code := by
  obtain ⟨d, hd, hcode, -⟩ := reject_eq h
  exact ⟨d, by rw [hd], hcode⟩

end Violation

end TensorShape
