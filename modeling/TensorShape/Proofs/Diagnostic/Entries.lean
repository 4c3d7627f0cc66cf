import Mathlib.Data.List.Induction
import TensorShape.Diagnostic.Entries

/-! # Entries written in order

What writing entries one after the other leaves, without the writing: each key in its first place,
with the value that stands last under it. No key is left twice. A key that is no text is never
another one.
-/

namespace TensorShape.Entries

def lastUnder? (key : Value) (given : Entries) : Option Value :=
  (given.reverse.find? fun entry => sameText key entry.1).map Prod.snd

/-- Each key in its first place, with the value that stands last under it. -/
def settled : Entries → Entries
  | [] => []
  | (key, value) :: rest =>
    (key, (lastUnder? key rest).getD value) ::
      (settled rest).filter fun entry => !sameText key entry.1

def DistinctKeys (entries : Entries) : Prop :=
  entries.Pairwise fun e e' => sameText e.1 e'.1 = false

section SameText

variable {u v w : Value}

theorem sameText_eq_true_iff : sameText u v = true ↔ ∃ s, u = .text s ∧ v = .text s := by
  constructor
  · intro h
    cases u with
    | text s =>
      cases v with
      | text t => exact ⟨s, rfl, congrArg Value.text ((sameText_text s t).mp h).symm⟩
      | _ => cases h
    | _ => cases h
  · rintro ⟨s, rfl, rfl⟩
    exact (sameText_text s s).mpr rfl

theorem sameText_comm (u v : Value) : sameText u v = sameText v u := by
  rw [Bool.eq_iff_iff, sameText_eq_true_iff, sameText_eq_true_iff]
  exact exists_congr fun s => and_comm

theorem sameText_congr_left (h : sameText u v = true) (w : Value) :
    sameText u w = sameText v w := by
  obtain ⟨s, rfl, rfl⟩ := sameText_eq_true_iff.mp h
  rfl

end SameText

variable {key k value : Value} {entries given : Entries}

theorem filter_insert_of_same (h : sameText k key = true) :
    (insert key value entries).filter (fun e => !sameText k e.1) =
      entries.filter fun e => !sameText k e.1 := by
  induction entries with
  | nil => simp [insert, h]
  | cons e entries ih =>
    rw [insert]
    split
    · rename_i he
      rw [← sameText_congr_left h] at he
      rw [List.filter_cons_of_neg (by simp [he]), List.filter_cons_of_neg (by simp [he])]
    · rw [List.filter_cons, List.filter_cons, ih]

theorem filter_insert_of_other (h : sameText k key = false) :
    (insert key value entries).filter (fun e => !sameText k e.1) =
      insert key value (entries.filter fun e => !sameText k e.1) := by
  induction entries with
  | nil => simp [insert, h]
  | cons e entries ih =>
    by_cases he : sameText key e.1 = true
    · have hk : sameText k e.1 = false := by
        rw [sameText_comm, ← sameText_congr_left he, sameText_comm]
        exact h
      rw [insert, if_pos he, List.filter_cons_of_pos (by simp [hk]),
        List.filter_cons_of_pos (by simp [hk]), insert, if_pos he]
    · rw [insert, if_neg he]
      by_cases hk : sameText k e.1 = true
      · rw [List.filter_cons_of_neg (by simp [hk]), List.filter_cons_of_neg (by simp [hk]), ih]
      · rw [List.filter_cons_of_pos (by simp [hk]), List.filter_cons_of_pos (by simp [hk]), insert,
          if_neg he, ih]

theorem lastUnder?_concat (given : Entries) (key k value : Value) :
    lastUnder? k (given ++ [(key, value)]) =
      if sameText k key then some value else lastUnder? k given := by
  rw [lastUnder?, List.reverse_concat, List.find?_cons]
  split <;> simp_all [lastUnder?]

/-- One more entry is written into what the others leave. -/
theorem settled_concat (given : Entries) (key value : Value) :
    settled (given ++ [(key, value)]) = insert key value (settled given) := by
  induction given with
  | nil => rfl
  | cons e given ih =>
    obtain ⟨k, v⟩ := e
    rw [List.cons_append, settled, settled, ih, lastUnder?_concat, insert, sameText_comm key k]
    by_cases h : sameText k key = true
    · rw [if_pos h, if_pos h, filter_insert_of_same h, Option.getD_some]
    · rw [if_neg h, if_neg h, filter_insert_of_other (Bool.eq_false_iff.mpr h)]

theorem ofList_eq_settled (given : Entries) : ofList given = settled given := by
  induction given using List.reverseRecOn with
  | nil => rfl
  | append_singleton given e ih =>
    rw [settled_concat, ← ih, ofList, ofList, update, update, List.foldl_append, List.foldl_cons,
      List.foldl_nil]

theorem update_singleton (key value : Value) (given : Entries) :
    update [(key, value)] given = settled ((key, value) :: given) :=
  ofList_eq_settled ((key, value) :: given)

theorem distinctKeys_settled (given : Entries) : DistinctKeys (settled given) := by
  induction given with
  | nil => exact .nil
  | cons e given ih =>
    refine List.pairwise_cons.mpr ⟨fun e' he' => ?_, ih.sublist List.filter_sublist⟩
    simpa using (List.mem_filter.mp he').2

end TensorShape.Entries
