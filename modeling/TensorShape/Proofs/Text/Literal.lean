import TensorShape.Proofs.Diagnostic.FirstDefect
import TensorShape.Proofs.Text.Listing

/-! # Written values end where they end

The written forms of nulls, truth values, whole numbers and texts are told apart by their first
characters, and a name is not taken for the null that it may spell. So each of them is delimited
where no digit follows, and lists and tuples of them are delimited whatever follows.
-/

namespace TensorShape

namespace Text

/-- The kind of a value whose written form starts with the character. -/
def kindOfInitial (c : Char) : Option String :=
  if c = '-' ∨ c.isDigit then some "int"
  else
    match c with
    | 'N' => some "NoneType"
    | 'T' | 'F' => some "bool"
    | '\'' | '"' => some "str"
    | _ => none

theorem kindOfInitial_of_mem_quotes {c : Char} (h : c ∈ quotes) : kindOfInitial c = some "str" := by
  have hquotes : ∀ c ∈ quotes, kindOfInitial c = some "str" := by
    simp [quotes, kindOfInitial]
  exact hquotes c h

end Text

namespace Value

open Text

variable {v w : Value} {r s : List Char}

theorem Listable.exists_chars_eq_cons (h : v.Listable) :
    ∃ c cs, v.chars = c :: cs ∧ kindOfInitial c = some v.kindName := by
  cases h with
  | null => exact ⟨'N', _, rfl, rfl⟩
  | bool b => cases b <;> exact ⟨_, _, rfl, rfl⟩
  | int n =>
    obtain ⟨c, cs, hn, hc⟩ := exists_decimal_eq_cons n
    exact ⟨c, cs, by rw [chars_int, hn], if_pos hc⟩
  | text s =>
    have hquote := quoteFor_mem_quotes s.toList
    exact ⟨_, _, by rw [chars_text, quoted], kindOfInitial_of_mem_quotes hquote⟩

theorem Listable.kindName_eq (hv : v.Listable) (hw : w.Listable) (h : v.chars ++ r = w.chars ++ s) :
    v.kindName = w.kindName := by
  obtain ⟨c, cs, hc, hv⟩ := hv.exists_chars_eq_cons
  obtain ⟨d, ds, hd, hw⟩ := hw.exists_chars_eq_cons
  rw [hc, hd] at h
  obtain rfl := (List.cons.inj h).1
  exact Option.some.inj (hv.symm.trans hw)

theorem delimited_chars : Delimited Listable EndsNumber chars := by
  intro v w r s hv hw hr hs h
  have hkind := hv.kindName_eq hw h
  cases hv with
  | null =>
    cases hw with
    | null => exact ⟨rfl, List.append_cancel_left h⟩
    | _ => exact absurd hkind (by simp [kindName])
  | bool b =>
    cases hw with
    | bool b' =>
      cases b <;> cases b'
      · exact ⟨rfl, List.append_cancel_left h⟩
      · simp [chars_bool] at h
      · simp [chars_bool] at h
      · exact ⟨rfl, List.append_cancel_left h⟩
    | _ => exact absurd hkind (by simp [kindName])
  | int m =>
    cases hw with
    | int n =>
      rw [chars_int, chars_int] at h
      obtain ⟨rfl, hrest⟩ := delimited_decimal trivial trivial hr hs h
      exact ⟨rfl, hrest⟩
    | _ => exact absurd hkind (by simp [kindName])
  | text t =>
    cases hw with
    | text u =>
      rw [chars_text, chars_text] at h
      obtain ⟨htext, hrest⟩ := delimited_quoted trivial trivial trivial trivial h
      exact ⟨congrArg text (String.toList_inj.mp htext), hrest⟩
    | _ => exact absurd hkind (by simp [kindName])

theorem Listable.exists_chars_eq_cons_not_mem (h : v.Listable) :
    ∃ c cs, v.chars = c :: cs ∧ c ∉ [']', ')', ','] := by
  obtain ⟨c, cs, hc, hkind⟩ := h.exists_chars_eq_cons
  have hclosing : ∀ c ∈ [']', ')', ','], kindOfInitial c = none := by simp [kindOfInitial]
  refine ⟨c, cs, hc, fun hmem => ?_⟩
  cases (hclosing c hmem).symm.trans hkind

theorem listed_chars : Listed Listable chars :=
  ⟨delimited_chars, fun _ => Listable.exists_chars_eq_cons_not_mem⟩

theorem delimited_list :
    Delimited (fun items => ∀ v ∈ items, v.Listable) (fun _ => True) fun items =>
      (list items).chars := by
  simpa only [chars_list] using listed_chars.delimited_bracketed

theorem delimited_tuple :
    Delimited (fun items => ∀ v ∈ items, v.Listable) (fun _ => True) fun items =>
      (tuple items).chars := by
  simpa only [chars_tuple] using listed_chars.delimited_parenthesized

/-- A text ends at its second quote, whatever follows. -/
theorem delimited_text : Delimited (fun _ => True) (fun _ => True) fun s : String =>
    (text s).chars := by
  simp only [chars_text]
  exact delimited_quoted.comp (fun _ _ => trivial) fun _ _ _ _ => String.toList_inj.mp

end Value

theorem Shape.delimited_chars : Text.Delimited (fun _ => True) (fun _ => True) fun dims : Shape =>
    (Value.tuple (dims.map .int)).chars :=
  Value.delimited_tuple.comp (fun _ _ => List.forall_mem_map.mpr fun n _ => .int n)
    fun _ _ _ _ => List.map_inj_right (fun _ _ => Value.int.inj) |>.mp

end TensorShape
