import TensorShape.Diagnostic.Lookup
import TensorShape.Proofs.Diagnostic.Data
import TensorShape.Proofs.Diagnostic.Entries
import TensorShape.Proofs.Diagnostic.FirstDefect

/-! # Diagnostics under a template

Diagnosing under a template writes the given data, logs one record and then ends as the building of
one draft does. The draft has the notes of the template, its help where none is given, and the
operation ahead of the data, which may replace it. What is diagnosed can be diagnosed again from its
own code, message, help and data, and comes out the same. Data that cannot be written ends the call
before the record.
-/

namespace TensorShape

namespace Diagnostic

def givenHelp (d : Diagnostic) : Value := (d.help.map Value.text).getD .null

def entries (d : Diagnostic) : Entries := d.data.map fun entry => (.text entry.1, entry.2.toValue)

theorem writes_entries (d : Diagnostic) : (Value.dict d.entries).Writes d.entries :=
  Value.writes_dict (List.forall_mem_map.mpr fun _ _ => rfl)

theorem mapM_checkEntry_entries (d : Diagnostic) : d.entries.mapM checkEntry = .ok d.data := by
  rw [entries]
  induction d.data with
  | nil => rfl
  | cons entry data ih =>
    rw [List.map_cons, List.mapM_cons, ih, checkEntry, Value.checkValue_toValue]
    rfl

end Diagnostic

theorem Draft.build_entries {draft : Draft} {channel : Channel} {d : Diagnostic}
    (h : draft.build channel = .ok d) : { draft with data := d.entries }.build channel = .ok d := by
  obtain ⟨code, hcode, h⟩ := exists_of_bind_eq_ok h
  obtain ⟨message, hmessage, h⟩ := exists_of_bind_eq_ok h
  obtain ⟨help, hhelp, h⟩ := exists_of_bind_eq_ok h
  obtain ⟨related, hrelated, h⟩ := exists_of_bind_eq_ok h
  obtain ⟨data, -, h⟩ := exists_of_bind_eq_ok h
  cases h
  rw [build, hcode, hmessage, hhelp, hrelated, Diagnostic.mapM_checkEntry_entries]
  rfl

namespace Template

variable {t : Template} {code : Code} {message help given : Value}
  {written : List (Value × Value)} {d : Diagnostic}

/-- The draft of a diagnostic whose data is what is left of the operation and further entries. -/
def drafted (t : Template) (code : Code) (message help : Value)
    (written : List (Value × Value)) : Draft :=
  t.draft code message help (Entries.settled ((.text "operation", t.operation) :: written))

theorem diagnose_eq (h : given.Writes written) (t : Template) (code : Code)
    (message help : Value) :
    t.diagnose code message help given =
      ⟨[⟨t.operation, code, message⟩],
        (Outcome.ofBuild ((t.drafted code message help written).build .validation)).result⟩ := by
  rw [diagnose_of_data (data_eq_pure h t), Entries.update_singleton]
  rfl

theorem orElse_givenHelp (h : help.orElse t.help = d.givenHelp) :
    d.givenHelp.orElse t.help = d.givenHelp := by
  cases hd : d.help with
  | some s => simp [Diagnostic.givenHelp, hd]
  | none =>
    simp only [Diagnostic.givenHelp, hd, Option.map_none, Option.getD_none] at h ⊢
    cases help <;> simp_all [Value.orElse]

/-- What is built from a draft has the operation as its first key, and no key twice. -/
theorem keys_of_build (h : (t.drafted code message help written).build .validation = .ok d) :
    (∃ payload rest, d.data = ("operation", payload) :: rest) ∧ (d.data.map Prod.fst).Nodup := by
  have hkeys := (Draft.keptBy_of_build h).2.keys
  simp only [drafted, draft, Entries.settled] at hkeys
  constructor
  · cases hdata : d.data with
    | nil =>
      rw [hdata] at hkeys
      cases hkeys
    | cons entry rest =>
      rw [hdata] at hkeys
      have hfirst : entry.1 = "operation" := (Value.text.inj (List.cons.inj hkeys).1).symm
      exact ⟨entry.2, rest, by rw [← hfirst]⟩
  · have hdistinct := Entries.distinctKeys_settled ((.text "operation", t.operation) :: written)
    have hpairs : (d.data.map fun entry => Value.text entry.1).Pairwise fun u v =>
        Entries.sameText u v = false := hkeys ▸ List.pairwise_map.mpr hdistinct
    refine List.pairwise_map.mpr ((List.pairwise_map.mp hpairs).imp fun hne heq => ?_)
    simp [heq, Entries.sameText] at hne

theorem settled_entries_of_build
    (h : (t.drafted code message help written).build .validation = .ok d) :
    Entries.settled ((.text "operation", t.operation) :: d.entries) = d.entries := by
  obtain ⟨⟨payload, rest, hdata⟩, hnodup⟩ := keys_of_build h
  rw [hdata, List.map_cons, List.nodup_cons] at hnodup
  have hmap : rest.map (fun e => (Value.text e.1, e.2.toValue)) =
      (rest.map (Prod.map id Payload.toValue)).map fun e => (Value.text e.1, e.2) := by
    rw [List.map_map]
    rfl
  rw [← Entries.update_singleton, Diagnostic.entries, hdata, List.map_cons, Entries.update_cons,
    Entries.insert_head, hmap,
    Entries.update_eq_append]
  · rfl
  · rw [List.map_map]
    exact hnodup.2
  · intro e he old hold
    obtain rfl := List.mem_singleton.mp hold
    obtain ⟨e', he', rfl⟩ := List.mem_map.mp he
    have hne : e'.1 ≠ "operation" := fun heq => hnodup.1 (List.mem_map.mpr ⟨e', he', heq⟩)
    simpa [Entries.sameText] using hne

/-- What is diagnosed comes out the same when it is diagnosed again. -/
theorem diagnose_again (hwrites : given.Writes written)
    (h : (t.diagnose code message help given).result = .ok d) :
    t.diagnose d.code (.text d.message) d.givenHelp (.dict d.entries) =
      ⟨[⟨t.operation, d.code, .text d.message⟩], .ok d⟩ := by
  rw [diagnose_eq hwrites] at h
  have hbuild := Outcome.result_ofBuild_eq_ok.mp h
  obtain ⟨-, hkept⟩ := Draft.keptBy_of_build hbuild
  have hdraft : t.drafted d.code (.text d.message) d.givenHelp d.entries =
      { t.drafted code message help written with data := d.entries } := by
    rw [drafted, settled_entries_of_build hbuild, draft, orElse_givenHelp hkept.help,
      ← hkept.code, ← hkept.message, Diagnostic.givenHelp, ← hkept.help]
    rfl
  rw [diagnose_eq d.writes_entries, hdraft, Draft.build_entries hbuild]
  rfl

end Template

/-- Diagnosing logs the operation, the code and the message in one record, whatever comes of it, and
then ends as the building of a draft does: a validated diagnostic or a defect. The help of the
template stands in for a help that is not given, and no other; the data is what is left of the
operation and the entries that are written, where a repeated key keeps its place and takes the last
value. The record tells the name of the operation, even where the data replaces it. What comes out
is a fixpoint: its own parts are diagnosed as the same diagnostic, under the code that its text
tells. All of this is asked of data that can be written, as a null and every dictionary can. Any
other data ends the call with a wrong kind or a wrong value, and nothing is logged. -/
theorem diagnosed_as_drafted (name : String) (notes : List Value) (ownHelp : Value) (code : Code)
    (message help given : Value) :
    let t : Template := { operation := .text name, related := notes, help := ownHelp }
    let reported := t.diagnose code message help given
    (∀ written, given.Writes written →
      let draft : Draft :=
        { code := .code code
          message := message
          help := help.orElse ownHelp
          related := notes
          data := Entries.settled ((.text "operation", .text name) :: written) }
      reported =
        ⟨[⟨.text name, code, message⟩], (Outcome.ofBuild (draft.build .validation)).result⟩ ∧
      reported.log.map LogRecord.line =
        [s!"DEBUG:shapealg.policy:rejected {name} ({code.text}): {message.display}"] ∧
      ∀ d, reported.result = .ok d →
        ∃ kind, Code.lookup (.text d.code.text) = pure kind ∧
          t.diagnose kind (.text d.message) d.givenHelp (.dict d.entries) =
            ⟨[⟨.text name, kind, .text d.message⟩], .ok d⟩) ∧
    (given = .null → given.Writes []) ∧
    (∀ entries, given = .dict entries → (∀ entry ∈ entries, entry.1.changeable? = none) →
      given.Writes entries) ∧
    (∀ f, given.Unwritable f →
      reported = Outcome.fault f ∧ (f.category = .kind ∨ f.category = .value)) ∧
    ((∃ written, given.Writes written) ∨ ∃ f, given.Unwritable f) := by
  intro t reported
  refine ⟨fun written hwrites => ?_, fun h => h ▸ .nothing, fun entries h hkeys => ?_,
    fun f hf => ?_, given.writes_or_unwritable⟩
  · have hreported := Template.diagnose_eq hwrites t code message help
    refine ⟨hreported, ?_, fun d hd =>
      ⟨d.code, Code.lookup_text d.code, Template.diagnose_again hwrites hd⟩⟩
    exact congrArg (fun o => o.log.map LogRecord.line) hreported
  · exact h ▸ Value.writes_dict hkeys
  · exact ⟨Template.diagnose_eq_fault hf t code message help, hf.category⟩

/-- Pairs are written as a dictionary is. Data that replaces the operation does so in its first
place and leaves the record as it is; a truth value in a list has become a number when it comes
back. A text has items that are no pairs. -/
theorem diagnosed_as_drafted_operation_replaced :
    let t : Template := { operation := .text "pad", related := [.text "config"], help := .text "?" }
    let given : Value := .list [.list [.text "rank", .list [.bool true, .null]],
      .tuple [.text "operation", .text "crop"], .list [.text "rank", .list [.int 2, .bool true]]]
    let d : Diagnostic :=
      { channel := .validation, code := .rankMismatch, message := "ranks differ", help := some "?",
        related := ["config"],
        data := [("operation", .text "crop"), ("rank", .sequence [.int 2, .int 1])] }
    (t.diagnose .rankMismatch (.text "ranks differ") .null given).result = .ok d ∧
      (∃ kind, Code.lookup (.text d.code.text) = pure kind ∧
        t.diagnose kind (.text d.message) d.givenHelp (.dict d.entries) =
          ⟨[⟨.text "pad", kind, .text d.message⟩], .ok d⟩) ∧
      t.diagnose .rankMismatch (.text "ranks differ") .null (.text "ab") =
        Outcome.fault (.pairLength 0 1) := by
  intro t given d
  have hd : (t.diagnose .rankMismatch (.text "ranks differ") .null given).result = .ok d :=
    Outcome.result_eq_ok_of_answer? (by decide +kernel)
  have hwrites : given.Writes [(.text "rank", .list [.bool true, .null]),
      (.text "operation", .text "crop"), (.text "rank", .list [.int 2, .bool true])] :=
    .pairs rfl (.cons ⟨rfl, rfl⟩ (.cons ⟨rfl, rfl⟩ (.cons ⟨rfl, rfl⟩ .nil)))
  have hparts : (Value.text "a").parts? = some [.text "a"] := rfl
  have hitems : (Value.text "ab").pairs? = some [.text "a", .text "b"] := rfl
  have hflaw : (Value.text "ab").Unwritable (.pairLength 0 1) :=
    .pair hitems (.here (.length hparts (by decide)))
  obtain ⟨hwritable, -⟩ := diagnosed_as_drafted "pad" [.text "config"] (.text "?") .rankMismatch
    (.text "ranks differ") .null given
  obtain ⟨-, -, -, hunwritable, -⟩ := diagnosed_as_drafted "pad" [.text "config"] (.text "?")
    .rankMismatch (.text "ranks differ") .null (.text "ab")
  exact ⟨hd, (hwritable _ hwrites).2.2 d hd, (hunwritable _ hflaw).1⟩

/-- A number cannot be written, and neither can a dictionary as a key: nothing is logged. -/
theorem nothing_logged_of_unwritable :
    let t := Operation.padding.template
    let key : Value := .dict [(.text "a", .int 1)]
    let number := t.diagnose .emptySlice (.text "m") .null (.int 5)
    let pairs := t.diagnose .emptySlice (.text "m") .null (.list [.list [key, .int 1]])
    (number = Outcome.fault (.notIterable (.int 5)) ∧ number.log = []) ∧
      pairs = Outcome.fault (.changeableKey key) ∧ pairs.log = [] :=
  ⟨⟨rfl, rfl⟩, rfl, rfl⟩

end TensorShape
