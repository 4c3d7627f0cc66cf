import Mathlib.Data.List.Forall2
import TensorShape.Diagnostic.Template
import TensorShape.Proofs.Sequencing

/-! # What a value writes

A value writes entries if each of its items is a key that cannot change, and a value; all of a
dictionary are. Otherwise it writes nothing, and the first item that is no such pair tells why.
-/

namespace TensorShape

open Outcome

namespace Value

/-- The item is a key, which cannot change, and a value. -/
def IsPair (item : Value) (entry : Value × Value) : Prop :=
  item.parts? = some [entry.1, entry.2] ∧ entry.1.changeable? = none

inductive PairFlaw (index : ℕ) (item : Value) : Fault → Prop
  | kind : item.parts? = none → PairFlaw index item (.pairKind index)
  | length {parts : List Value} : item.parts? = some parts → parts.length ≠ 2 →
    PairFlaw index item (.pairLength index parts.length)
  | key {key value part : Value} : item.parts? = some [key, value] →
    key.changeable? = some part → PairFlaw index item (.changeableKey part)

/-- Why the first item that is no such pair is none, where the items stand from an index on. -/
inductive FirstPairFlaw : (index : ℕ) → List Value → Fault → Prop
  | here {index : ℕ} {item : Value} {rest : List Value} {f : Fault} : PairFlaw index item f →
    FirstPairFlaw index (item :: rest) f
  | later {index : ℕ} {item : Value} {entry : Value × Value} {rest : List Value} {f : Fault} :
    item.IsPair entry → FirstPairFlaw (index + 1) rest f → FirstPairFlaw index (item :: rest) f

/-- The entries that a value writes. A null writes none. -/
inductive Writes : Value → List (Value × Value) → Prop
  | nothing : Writes .null []
  | pairs {given : Value} {items : List Value} {entries : List (Value × Value)} :
    given.pairs? = some items → List.Forall₂ IsPair items entries → Writes given entries

/-- Why a value writes nothing. -/
inductive Unwritable : Value → Fault → Prop
  | notIterable {given : Value} : given ≠ .null → given.pairs? = none →
    Unwritable given (.notIterable given)
  | pair {given : Value} {items : List Value} {f : Fault} : given.pairs? = some items →
    FirstPairFlaw 0 items f → Unwritable given f

variable {index : ℕ} {item given : Value} {items : List Value} {f : Fault}

theorem isPair_or_pairFlaw (index : ℕ) (item : Value) :
    (∃ entry, item.IsPair entry) ∨ ∃ f, PairFlaw index item f := by
  cases hparts : item.parts? with
  | none => exact Or.inr ⟨_, .kind hparts⟩
  | some parts =>
    by_cases hlen : parts.length = 2
    · obtain ⟨key, value, rfl⟩ := List.length_eq_two.mp hlen
      cases hkey : key.changeable? with
      | none => exact Or.inl ⟨(key, value), hparts, hkey⟩
      | some part => exact Or.inr ⟨_, .key hparts hkey⟩
    · exact Or.inr ⟨_, .length hparts hlen⟩

theorem forall₂_isPair_or_firstPairFlaw (index : ℕ) (items : List Value) :
    (∃ entries, List.Forall₂ IsPair items entries) ∨ ∃ f, FirstPairFlaw index items f := by
  induction items generalizing index with
  | nil => exact Or.inl ⟨[], .nil⟩
  | cons item rest ih =>
    rcases isPair_or_pairFlaw index item with ⟨entry, hentry⟩ | ⟨f, hf⟩
    · rcases ih (index + 1) with ⟨entries, hrest⟩ | ⟨f, hf⟩
      · exact Or.inl ⟨entry :: entries, .cons hentry hrest⟩
      · exact Or.inr ⟨f, .later hentry hf⟩
    · exact Or.inr ⟨f, .here hf⟩

theorem writes_or_unwritable (given : Value) :
    (∃ entries, given.Writes entries) ∨ ∃ f, given.Unwritable f := by
  by_cases hnull : given = .null
  · exact Or.inl ⟨[], hnull ▸ .nothing⟩
  · cases hitems : given.pairs? with
    | none => exact Or.inr ⟨_, .notIterable hnull hitems⟩
    | some items =>
      exact (forall₂_isPair_or_firstPairFlaw 0 items).imp
        (fun ⟨entries, h⟩ => ⟨entries, .pairs hitems h⟩) fun ⟨f, h⟩ => ⟨f, .pair hitems h⟩

/-- A dictionary, whose keys cannot change, writes its entries. -/
theorem writes_dict {entries : List (Value × Value)}
    (h : ∀ entry ∈ entries, entry.1.changeable? = none) : (dict entries).Writes entries := by
  refine .pairs rfl (List.forall₂_map_left_iff.mpr (List.forall₂_same.mpr fun entry he => ?_))
  exact ⟨rfl, h entry he⟩

theorem writes_keyed (entries : List (String × Value)) :
    (keyed entries).Writes (entries.map fun entry => (.text entry.1, entry.2)) :=
  writes_dict (List.forall_mem_map.mpr fun _ _ => rfl)

theorem FirstPairFlaw.category (h : FirstPairFlaw index items f) :
    f.category = .kind ∨ f.category = .value := by
  induction h with
  | here hflaw =>
    cases hflaw with
    | kind | key => exact Or.inl rfl
    | length => exact Or.inr rfl
  | later _ _ ih => exact ih

theorem Unwritable.category (h : given.Unwritable f) :
    f.category = .kind ∨ f.category = .value := by
  cases h with
  | notIterable => exact Or.inl rfl
  | pair _ hflaw => exact hflaw.category

end Value

namespace Entries

variable {index : ℕ} {item : Value} {items : List Value} {given : List (Value × Value)}
  {f : Fault}

theorem writePair_eq_pure {entry : Value × Value} (h : item.IsPair entry) (entries : Entries)
    (index : ℕ) : entries.writePair item index = pure (entries.insert entry.1 entry.2) := by
  simp only [writePair, h.1, write, h.2]

theorem writePair_eq_fault (h : item.PairFlaw index f) (entries : Entries) :
    entries.writePair item index = fault f := by
  cases h with
  | kind hparts => simp only [writePair, hparts]
  | key hparts hkey => simp only [writePair, hparts, write, hkey]
  | length hparts hlen =>
    rw [writePair, hparts]
    split <;> rename_i heq <;> cases heq
    · exact absurd rfl hlen
    · rfl

theorem writePairs_eq_pure (h : List.Forall₂ Value.IsPair items given) (entries : Entries)
    (index : ℕ) : entries.writePairs index items = pure (entries.update given) := by
  induction h generalizing entries index with
  | nil => rfl
  | cons hentry _ ih => rw [writePairs, writePair_eq_pure hentry, pure_bind, ih, update_cons]

theorem writePairs_eq_fault (h : Value.FirstPairFlaw index items f) (entries : Entries) :
    entries.writePairs index items = fault f := by
  induction h generalizing entries with
  | here hflaw => rw [writePairs, writePair_eq_fault hflaw, fault_bind]
  | later hentry _ ih => rw [writePairs, writePair_eq_pure hentry, pure_bind, ih]

end Entries

namespace Template

variable {given : Value} {f : Fault} {code : Code} {message help : Value}

theorem data_of_ne_null (t : Template) (h : given ≠ .null) :
    t.data given = Entries.merge [(.text "operation", t.operation)] given := by
  cases given with
  | null => exact absurd rfl h
  | _ => rfl

theorem data_of_pairs? {items : List Value} (h : given.pairs? = some items) (t : Template) :
    t.data given = Entries.writePairs [(.text "operation", t.operation)] 0 items := by
  have hnull : given ≠ .null := fun hnull => by
    rw [hnull] at h
    cases h
  rw [t.data_of_ne_null hnull, Entries.merge, h]

theorem data_eq_pure {entries : List (Value × Value)} (h : given.Writes entries) (t : Template) :
    t.data given = pure (Entries.update [(.text "operation", t.operation)] entries) := by
  cases h with
  | nothing => rfl
  | pairs hitems hpairs => rw [t.data_of_pairs? hitems, Entries.writePairs_eq_pure hpairs]

/-- Data that cannot be written ends the call before anything is logged. -/
theorem diagnose_eq_fault (h : given.Unwritable f) (t : Template) (code : Code)
    (message help : Value) : t.diagnose code message help given = fault f := by
  suffices hdata : t.data given = fault f by rw [diagnose, hdata, fault_bind]
  cases h with
  | notIterable hnull hnone => rw [t.data_of_ne_null hnull, Entries.merge, hnone]
  | pair hitems hflaw => rw [t.data_of_pairs? hitems, Entries.writePairs_eq_fault hflaw]

end Template

end TensorShape
