import TensorShape.Outcome
import TensorShape.Proofs.Diagnostic.Reporting

/-! # The first defect of a draft

The requirements of a draft are listed in the order in which they are checked. A diagnostic is built
exactly if all of them hold, and it keeps the texts that it was drafted with. Otherwise the first
requirement that is broken tells the defect, wherever else the draft has defects of its own.
-/

namespace TensorShape

namespace Outcome

variable {built : Except Defect Diagnostic}

theorem ofBuild_eq_pure_iff {d : Diagnostic} : ofBuild built = pure d ↔ built = .ok d := by
  cases built with
  | ok d' =>
    refine ⟨fun h => ?_, fun h => congrArg ofBuild h⟩
    cases h
    rfl
  | error e => exact ⟨nofun, nofun⟩

theorem ofBuild_eq_fault_iff {e : Defect} :
    ofBuild built = fault (.defect e) ↔ built = .error e := by
  cases built with
  | ok d => exact ⟨nofun, nofun⟩
  | error e' =>
    refine ⟨fun h => ?_, fun h => congrArg ofBuild h⟩
    cases h
    rfl

end Outcome

/-- What is asked of a part of a draft, and the defect of a draft that falls short of it. -/
structure Requirement where
  holds : Prop
  defect : Defect

/-- The defect of the first requirement that is broken. -/
inductive FirstBroken : List Requirement → Defect → Prop
  | here {r : Requirement} {rs : List Requirement} : ¬ r.holds → FirstBroken (r :: rs) r.defect
  | later {r : Requirement} {rs : List Requirement} {e : Defect} : r.holds → FirstBroken rs e →
    FirstBroken (r :: rs) e

/-- The check passes if all requirements hold, and tells the defect of the first broken one if
not. -/
inductive Decides {α : Type} : Except Defect α → List Requirement → Prop
  | passes {a : α} {rs : List Requirement} : (∀ r ∈ rs, r.holds) → Decides (.ok a) rs
  | tells {e : Defect} {rs : List Requirement} : FirstBroken rs e → Decides (.error e) rs

section Checks

variable {α β : Type} {rs qs : List Requirement} {e e' : Defect}

namespace FirstBroken

theorem append (h : FirstBroken rs e) (qs : List Requirement) : FirstBroken (rs ++ qs) e := by
  induction h with
  | here hbroken => exact .here hbroken
  | later hholds _ ih => exact .later hholds ih

theorem not_forall (h : FirstBroken rs e) : ¬ ∀ r ∈ rs, r.holds := by
  induction h with
  | here hbroken => exact fun hall => hbroken (hall _ List.mem_cons_self)
  | later _ _ ih => exact fun hall => ih fun r hr => hall r (List.mem_cons_of_mem _ hr)

theorem unique (h : FirstBroken rs e) (h' : FirstBroken rs e') : e = e' := by
  induction h with
  | here hbroken =>
    cases h' with
    | here _ => rfl
    | later hholds _ => exact absurd hholds hbroken
  | later hholds _ ih =>
    cases h' with
    | here hbroken => exact absurd hholds hbroken
    | later _ hlater => exact ih hlater

end FirstBroken

namespace Decides

theorem nil (a : α) : Decides (.ok a) [] := .passes fun _ hr => absurd hr List.not_mem_nil

theorem cons {x : Except Defect α} {r : Requirement} (hr : r.holds) (h : Decides x rs) :
    Decides x (r :: rs) := by
  cases h with
  | passes hrs => exact .passes (List.forall_mem_cons.mpr ⟨hr, hrs⟩)
  | tells he => exact .tells (.later hr he)

theorem append_of_forall {x : Except Defect α} (hrs : ∀ r ∈ rs, r.holds) (h : Decides x qs) :
    Decides x (rs ++ qs) := by
  induction rs with
  | nil => exact h
  | cons r rs ih =>
    rw [List.forall_mem_cons] at hrs
    exact (ih hrs.2).cons hrs.1

theorem bind {x : Except Defect α} {f : α → Except Defect β} (hx : Decides x rs)
    (hf : ∀ a, x = .ok a → Decides (f a) qs) : Decides (x >>= f) (rs ++ qs) := by
  cases hx with
  | passes hrs => exact (hf _ rfl).append_of_forall hrs
  | tells he => exact .tells (he.append qs)

theorem map {x : Except Defect α} (h : Decides x rs) (f : α → β) :
    Decides (x >>= fun a => pure (f a)) rs := by
  cases h with
  | passes hrs => exact .passes hrs
  | tells he => exact .tells he

theorem mapM {f : α → Except Defect β} {g : α → List Requirement} {xs : List α}
    (h : ∀ x ∈ xs, Decides (f x) (g x)) : Decides (xs.mapM f) (xs.flatMap g) := by
  induction xs with
  | nil => exact .nil []
  | cons x xs ih =>
    rw [List.forall_mem_cons] at h
    rw [List.mapM_cons, List.flatMap_cons]
    exact h.1.bind fun y _ => (ih h.2).map (y :: ·)

theorem eq_error_iff {x : Except Defect α} (h : Decides x rs) :
    x = .error e ↔ FirstBroken rs e := by
  cases h with
  | passes hrs => exact ⟨nofun, fun he => absurd hrs he.not_forall⟩
  | tells he =>
    rw [Except.error.injEq]
    exact ⟨fun heq => heq ▸ he, he.unique⟩

theorem exists_ok_iff {x : Except Defect α} (h : Decides x rs) :
    (∃ a, x = .ok a) ↔ ∀ r ∈ rs, r.holds := by
  cases h with
  | passes hrs => exact ⟨fun _ => hrs, fun _ => ⟨_, rfl⟩⟩
  | tells he => exact ⟨nofun, fun hrs => absurd hrs he.not_forall⟩

theorem exists_error_iff {x : Except Defect α} (h : Decides x rs) :
    (∃ e, x = .error e) ↔ ¬ ∀ r ∈ rs, r.holds := by
  rw [← h.exists_ok_iff]
  cases x with
  | ok a => exact ⟨nofun, fun hno => absurd ⟨a, rfl⟩ hno⟩
  | error e => exact ⟨fun _ => nofun, fun _ => ⟨e, rfl⟩⟩

end Decides

end Checks

namespace Value

inductive Textual : Value → Prop
  | text (s : String) : Textual (.text s)

inductive Blank : Value → Prop
  | text {s : String} : Text.isBlank s = true → Blank (.text s)

inductive Listable : Value → Prop
  | null : Listable .null
  | bool (b : Bool) : Listable (.bool b)
  | int (n : Int) : Listable (.int n)
  | text (s : String) : Listable (.text s)

/-- What the data may hold under a key, whatever the items of a sequence. -/
inductive Holdable : Value → Prop
  | bool (b : Bool) : Holdable (.bool b)
  | int (n : Int) : Holdable (.int n)
  | text (s : String) : Holdable (.text s)
  | tuple (items : List Value) : Holdable (.tuple items)
  | list (items : List Value) : Holdable (.list items)

def items : Value → List Value
  | .tuple items | .list items => items
  | _ => []

end Value

def textRequirements (kind blank : Defect) (v : Value) : List Requirement :=
  [⟨v.Textual, kind⟩, ⟨¬ v.Blank, blank⟩]

/-- What is asked of a value in the data, and then of its items from left to right. -/
def valueRequirements (v : Value) : List Requirement :=
  ⟨v.Holdable, .valueKind⟩ :: v.items.map fun item => ⟨item.Listable, .itemKind⟩

def entryRequirements (entry : Value × Value) : List Requirement :=
  ⟨entry.1.Textual, .keyKind⟩ :: valueRequirements entry.2

theorem forall_textRequirements_iff {kind blank : Defect} {v : Value} :
    (∀ r ∈ textRequirements kind blank v, r.holds) ↔ v.Textual ∧ ¬ v.Blank := by
  simp [textRequirements]

theorem forall_entryRequirements_iff {entry : Value × Value} :
    (∀ r ∈ entryRequirements entry, r.holds) ↔
      entry.1.Textual ∧ entry.2.Holdable ∧ ∀ item ∈ entry.2.items, item.Listable := by
  simp [entryRequirements, valueRequirements]

/-- What is asked of the code, the message, the help, the related notes from left to right and the
entries of the data in their order. -/
def Draft.requirements (draft : Draft) : List Requirement :=
  [⟨∃ c, draft.code = .code c, .codeKind⟩] ++
  textRequirements .messageKind .messageBlank draft.message ++
  [⟨draft.help = .null ∨ draft.help.Textual, .helpKind⟩] ++
  draft.related.flatMap (textRequirements .noteKind .noteBlank) ++
  draft.data.flatMap entryRequirements

section Parts

variable (v : Value)

theorem decides_checkCode (given : GivenCode) :
    Decides (checkCode given) [⟨∃ c, given = .code c, .codeKind⟩] := by
  cases given with
  | code c => exact (Decides.nil c).cons ⟨c, rfl⟩
  | other v => exact .tells (.here nofun)

theorem decides_text {kind blank : Defect} (s : String) :
    Decides (if Text.isBlank s then .error blank else .ok s)
      (textRequirements kind blank (.text s)) := by
  split
  · exact .tells (.later (.text s) (.here fun hnot => hnot (.text ‹_›)))
  · exact ((Decides.nil s).cons fun ⟨hblank⟩ => ‹¬ _› hblank).cons (.text s)

theorem decides_checkMessage :
    Decides (checkMessage v) (textRequirements .messageKind .messageBlank v) := by
  cases v with
  | text s => exact decides_text s
  | _ => exact .tells (.here nofun)

theorem decides_checkHelp :
    Decides (checkHelp v) [⟨v = .null ∨ v.Textual, .helpKind⟩] := by
  cases v with
  | null => exact (Decides.nil none).cons (Or.inl rfl)
  | text s => exact (Decides.nil (some s)).cons (Or.inr (.text s))
  | _ => exact .tells (.here (by rintro (⟨⟨⟩⟩ | ⟨⟨⟩⟩)))

theorem decides_checkNote :
    Decides (checkNote v) (textRequirements .noteKind .noteBlank v) := by
  cases v with
  | text s => exact decides_text s
  | _ => exact .tells (.here nofun)

theorem decides_checkKey : Decides (checkKey v) [⟨v.Textual, .keyKind⟩] := by
  cases v with
  | text s => exact (Decides.nil s).cons (.text s)
  | _ => exact .tells (.here nofun)

theorem decides_checkItem : Decides (checkItem v) [⟨v.Listable, .itemKind⟩] := by
  cases v with
  | null => exact (Decides.nil _).cons .null
  | bool b => exact (Decides.nil _).cons (.bool b)
  | int n => exact (Decides.nil _).cons (.int n)
  | text s => exact (Decides.nil _).cons (.text s)
  | _ => exact .tells (.here nofun)

theorem decides_sequence (items : List Value) :
    Decides (items.mapM checkItem >>= fun checked => pure (Payload.sequence checked))
      (items.map fun item => ⟨item.Listable, .itemKind⟩) := by
  rw [List.map_eq_flatMap]
  exact (Decides.mapM fun item _ => decides_checkItem item).map Payload.sequence

theorem decides_checkValue : Decides (checkValue v) (valueRequirements v) := by
  cases v with
  | bool b => exact (Decides.nil _).cons (.bool b)
  | int n => exact (Decides.nil _).cons (.int n)
  | text s => exact (Decides.nil _).cons (.text s)
  | tuple items => exact (decides_sequence items).cons (.tuple items)
  | list items => exact (decides_sequence items).cons (.list items)
  | _ => exact .tells (.here nofun)

theorem decides_checkEntry (entry : Value × Value) :
    Decides (checkEntry entry) (entryRequirements entry) :=
  (decides_checkKey entry.1).bind fun key _ => (decides_checkValue entry.2).map (key, ·)

end Parts

/-- A draft is built, or the first requirement that it breaks tells its defect. -/
theorem Draft.decides_build (draft : Draft) (channel : Channel) :
    Decides (draft.build channel) draft.requirements := by
  simp only [requirements, List.append_assoc]
  refine (decides_checkCode draft.code).bind fun code _ => ?_
  refine (decides_checkMessage draft.message).bind fun message _ => ?_
  refine (decides_checkHelp draft.help).bind fun help _ => ?_
  refine (Decides.mapM fun note _ => decides_checkNote note).bind fun related _ => ?_
  exact (Decides.mapM fun entry _ => decides_checkEntry entry).map
    (Diagnostic.mk channel code message help related)

namespace Draft

/-- The parts of the draft are of the kinds that a diagnostic has, and no text that is read is
blank. -/
structure WellFormed (draft : Draft) : Prop where
  code : ∃ c, draft.code = .code c
  message : draft.message.Textual ∧ ¬ draft.message.Blank
  help : draft.help = .null ∨ draft.help.Textual
  related : ∀ note ∈ draft.related, note.Textual ∧ ¬ note.Blank
  keys : ∀ entry ∈ draft.data, entry.1.Textual
  values : ∀ entry ∈ draft.data,
    entry.2.Holdable ∧ ∀ item ∈ entry.2.items, item.Listable

variable {draft : Draft}

theorem forall_requirements_iff : (∀ r ∈ draft.requirements, r.holds) ↔ draft.WellFormed := by
  simp only [requirements, List.forall_mem_append, List.forall_mem_singleton,
    List.forall_mem_flatMap, forall_textRequirements_iff, forall_entryRequirements_iff]
  constructor
  · rintro ⟨⟨⟨⟨hcode, hmessage⟩, hhelp⟩, hrelated⟩, hdata⟩
    exact ⟨hcode, hmessage, hhelp, hrelated, fun entry he => (hdata entry he).1,
      fun entry he => (hdata entry he).2⟩
  · rintro ⟨hcode, hmessage, hhelp, hrelated, hkeys, hvalues⟩
    exact ⟨⟨⟨⟨hcode, hmessage⟩, hhelp⟩, hrelated⟩, fun entry he =>
      ⟨hkeys entry he, hvalues entry he⟩⟩

end Draft

section Kept

variable {v : Value} {s : String}

theorem map_eq_map_of_mapM {ε α β γ : Type} {f : α → Except ε β} {g : α → γ} {h : β → γ}
    {xs : List α} {ys : List β} (hf : ∀ x y, f x = .ok y → g x = h y)
    (hmapM : xs.mapM f = .ok ys) : xs.map g = ys.map h := by
  induction xs generalizing ys with
  | nil =>
    cases hmapM
    rfl
  | cons x xs ih =>
    rw [List.mapM_cons] at hmapM
    obtain ⟨y, hy, hmapM⟩ := exists_of_bind_eq_ok hmapM
    obtain ⟨rest, hrest, hmapM⟩ := exists_of_bind_eq_ok hmapM
    cases hmapM
    rw [List.map_cons, List.map_cons, hf x y hy, ih hrest]

theorem eq_of_ite_isBlank {t : String} {blank : Defect}
    (h : (if Text.isBlank t then .error blank else .ok t : Except Defect String) = .ok s) :
    t = s := by
  split at h
  · cases h
  · exact Except.ok.inj h

theorem eq_text_of_checkMessage (h : checkMessage v = .ok s) : v = .text s := by
  cases v with
  | text t => rw [eq_of_ite_isBlank h]
  | _ => cases h

theorem eq_text_of_checkNote (h : checkNote v = .ok s) : v = .text s := by
  cases v with
  | text t => rw [eq_of_ite_isBlank h]
  | _ => cases h

theorem eq_text_of_checkKey (h : checkKey v = .ok s) : v = .text s := by
  cases v with
  | text t => rw [Except.ok.inj h]
  | _ => cases h

theorem eq_code_of_checkCode {given : GivenCode} {c : Code} (h : checkCode given = .ok c) :
    given = .code c := by
  cases given with
  | code c' => rw [Except.ok.inj h]
  | other v => cases h

theorem eq_text?_of_checkHelp {help : Option String} (h : checkHelp v = .ok help) :
    v = (help.map Value.text).getD .null := by
  cases v with
  | null | text t =>
    cases h
    rfl
  | _ => cases h

theorem key_eq_of_checkEntry {entry : Value × Value} {stored : String × Payload}
    (h : checkEntry entry = .ok stored) : entry.1 = .text stored.1 := by
  obtain ⟨key, hkey, h⟩ := exists_of_bind_eq_ok h
  obtain ⟨payload, -, h⟩ := exists_of_bind_eq_ok h
  cases h
  exact eq_text_of_checkKey hkey

end Kept

namespace Draft

variable {draft : Draft}

/-- The diagnostic has the code, the texts and the keys of the draft, in the same order. -/
structure KeptBy (draft : Draft) (d : Diagnostic) : Prop where
  code : draft.code = .code d.code
  message : draft.message = .text d.message
  help : draft.help = (d.help.map Value.text).getD .null
  related : draft.related = d.related.map .text
  keys : draft.data.map Prod.fst = d.data.map fun entry => .text entry.1

theorem keptBy_of_build {channel : Channel} {d : Diagnostic}
    (h : draft.build channel = .ok d) : d.channel = channel ∧ draft.KeptBy d := by
  obtain ⟨code, hcode, h⟩ := exists_of_bind_eq_ok h
  obtain ⟨message, hmessage, h⟩ := exists_of_bind_eq_ok h
  obtain ⟨help, hhelp, h⟩ := exists_of_bind_eq_ok h
  obtain ⟨related, hrelated, h⟩ := exists_of_bind_eq_ok h
  obtain ⟨data, hdata, h⟩ := exists_of_bind_eq_ok h
  cases h
  have hnotes : draft.related.map id = related.map .text :=
    map_eq_map_of_mapM (fun _ _ => eq_text_of_checkNote) hrelated
  rw [List.map_id] at hnotes
  exact ⟨rfl, eq_code_of_checkCode hcode, eq_text_of_checkMessage hmessage,
    eq_text?_of_checkHelp hhelp, hnotes,
    map_eq_map_of_mapM (fun _ _ => key_eq_of_checkEntry) hdata⟩

/-- A draft is built exactly if it is well-formed, and what is built keeps its texts and the order
of its keys. Any other draft ends with the fault of the first requirement that it breaks; a blank
text is a wrong value and all else a wrong kind, and each defect has a message of its own. -/
theorem built_or_first_defect (draft : Draft) (channel : Channel) :
    let built := Outcome.ofBuild (draft.build channel)
    ((∃ d, built = pure d) ↔ draft.WellFormed) ∧
    (∀ d, built = pure d → d.channel = channel ∧ draft.KeptBy d) ∧
    ((∃ e, built = Outcome.fault (.defect e)) ↔ ¬ draft.WellFormed) ∧
    (∀ e, built = Outcome.fault (.defect e) ↔ FirstBroken draft.requirements e) ∧
    (∀ e : Defect, (Fault.defect e).category =
      if e = .messageBlank ∨ e = .noteBlank then .value else .kind) ∧
    Function.Injective fun e : Defect => (Fault.defect e).message := by
  intro built
  have hdecides := draft.decides_build channel
  have hok (d : Diagnostic) : built = pure d ↔ draft.build channel = .ok d :=
    Outcome.ofBuild_eq_pure_iff
  have herror (e : Defect) :
      built = Outcome.fault (.defect e) ↔ draft.build channel = .error e :=
    Outcome.ofBuild_eq_fault_iff
  simp only [hok, herror, ← forall_requirements_iff]
  refine ⟨hdecides.exists_ok_iff, fun d => keptBy_of_build, hdecides.exists_error_iff,
    fun e => hdecides.eq_error_iff, fun e => ?_, fun e e' h => ?_⟩
  · cases e <;> rfl
  · cases e <;> cases e' <;> first | rfl | exact absurd h (by decide)

/-- An empty help will do, and a list may mix its items; of the defects of the second draft the
blank note is the first one. -/
theorem built_or_first_defect_blank_note :
    let fit : Draft :=
      { code := .code .emptySlice, message := .text "empty slice", help := .text "",
        data := [(.text "axis", .list [.null, .bool true, .int 3]), (.text "flag", .bool true)] }
    let unfit : Draft :=
      { code := .code .emptySlice, message := .text "empty slice",
        related := [.text "given here", .text " ", .null], data := [(.int 3, .null)] }
    (∃ d, Outcome.ofBuild (fit.build .general) = pure d) ∧
      Outcome.ofBuild (unfit.build .general) = Outcome.fault (.defect .noteBlank) := by
  intro fit unfit
  constructor
  · exact (built_or_first_defect fit .general).1.mpr
      { code := ⟨_, rfl⟩
        message := ⟨.text _, fun ⟨h⟩ => absurd h (by decide +kernel)⟩
        help := Or.inr (.text _)
        related := nofun
        keys := by simp [fit, Value.Textual.text]
        values := by simp [fit, Value.items, Value.Holdable.list, Value.Holdable.bool,
          Value.Listable.null, Value.Listable.bool, Value.Listable.int] }
  · refine ((built_or_first_defect unfit .general).2.2.2.1 .noteBlank).mpr ?_
    refine .later ⟨_, rfl⟩ <| .later (.text _) <| .later ?_ <| .later (Or.inl rfl) <|
      .later (.text _) <| .later ?_ <| .later (.text _) <| .here ?_
    · exact fun ⟨h⟩ => absurd h (by decide +kernel)
    · exact fun ⟨h⟩ => absurd h (by decide +kernel)
    · exact fun hnot => hnot (.text (by decide +kernel))

end Draft

end TensorShape
