import TensorShape.Proofs.Diagnostic.Data
import TensorShape.Proofs.Diagnostic.FirstDefect
import TensorShape.Proofs.Text.Literal

/-! # Messages tell the values they quote

A message is a row of words of its own and written values. Every written value is delimited,
whatever words follow it, so that two messages of one violation are the same exactly if they quote
the same values. What a diagnosed violation quotes as it was handed in can be listed: nulls, truth
values, whole numbers and texts.
-/

namespace TensorShape

theorem toString_eq_ofList_decimal (n : Int) : toString n = String.ofList (Text.decimal n) := by
  rw [Int.toString_eq_repr]
  cases n with
  | ofNat m => exact Nat.toString_eq_ofList_toDigits
  | negSucc m =>
    refine String.toList_inj.mp ?_
    rw [Int.repr, String.toList_append, Nat.toList_repr, String.toList_ofList,
      String.toList_ofList]
    rfl

theorem toString_int_inj {m n : Int} : toString m = toString n ↔ m = n := by
  rw [toString_eq_ofList_decimal, toString_eq_ofList_decimal]
  exact Text.delimited_decimal.ofList_inj trivial trivial Text.endsNumber_nil

theorem AxisName.listable_toValue (n : AxisName) : n.toValue.Listable := by
  cases n with
  | none => exact .null
  | some s => exact .text s

section Parts

variable {s s' : String} {names names' : List Value} {dims dims' : Shape} {t u : String}

theorem literal_append_inj :
    (Value.text s).literal ++ t = (Value.text s').literal ++ u ↔ s = s' ∧ t = u :=
  Value.delimited_text.ofList_append_inj trivial trivial trivial trivial

theorem literal_inj : (Value.text s).literal = (Value.text s').literal ↔ s = s' :=
  Value.delimited_text.ofList_inj trivial trivial trivial

theorem listText_append_inj (h : ∀ v ∈ names, v.Listable) (h' : ∀ v ∈ names', v.Listable) :
    listText names ++ t = listText names' ++ u ↔ names = names' ∧ t = u :=
  Value.delimited_list.ofList_append_inj h h' trivial trivial

theorem listText_inj (h : ∀ v ∈ names, v.Listable) (h' : ∀ v ∈ names', v.Listable) :
    listText names = listText names' ↔ names = names' :=
  Value.delimited_list.ofList_inj h h' trivial

theorem Shape.literal_append_inj : dims.literal ++ t = dims'.literal ++ u ↔ dims = dims' ∧ t = u :=
  Shape.delimited_chars.ofList_append_inj trivial trivial trivial trivial

theorem Shape.literal_inj : dims.literal = dims'.literal ↔ dims = dims' :=
  Shape.delimited_chars.ofList_inj trivial trivial trivial

end Parts

namespace Violation

section Texts

variable {s s' t t' : String} {names names' : List Value} {refs refs' : List AxisRef}
  {rank rank' : Nat} {resolved resolved' axes axes' : List Int} {lhs lhs' rhs rhs' : Shape}
  {given given' : List AxisName} {repeated repeated' : List String}

theorem message_nameConflict (s t : String) : (nameConflict s t).message =
    "cannot merge names " ++ (Value.text s).literal ++ ", " ++ (Value.text t).literal := rfl

theorem message_unknownName (s : String) (names : List Value) : (unknownName s names).message =
    "key " ++ (Value.text s).literal ++ " not found in tensor with names " ++ listText names := rfl

theorem message_repeatedAxes (refs : List AxisRef) (rank : Nat) (resolved : List Int) :
    (repeatedAxes refs rank resolved).message =
      "axes " ++ listText (refs.map AxisRef.toValue) ++ " must be unique integers between 0 and " ++
        toString ((rank : Int) - 1) := rfl

theorem message_contractionNames (given : List AxisName) (repeated : List String) :
    (contractionNames given repeated).message =
      "operation would result in duplicate names " ++ listText (given.map AxisName.toValue) ++
        ", " ++ "please rename your tensors to avoid duplicates" := rfl

theorem message_pairClash (lhs rhs : Shape) : (pairClash lhs rhs).message =
    "cannot broadcast tensor of dimensions " ++ lhs.literal ++ " to " ++ rhs.literal := rfl

theorem message_mappingClash (lhs rhs : Shape) (axes : List Int) :
    (mappingClash lhs rhs axes).message =
      "cannot broadcast tensor of dimensions " ++ lhs.literal ++ " to " ++ rhs.literal ++ " " ++
        ("with axes " ++ listText (axes.map .int)) := rfl

theorem message_nameConflict_inj :
    (nameConflict s t).message = (nameConflict s' t').message ↔ s = s' ∧ t = t' := by
  simp only [message_nameConflict, String.append_assoc, String.append_right_inj,
    literal_append_inj, literal_inj]

theorem message_unknownName_inj (h : ∀ v ∈ (unknownName s names).givenValues, v.Listable)
    (h' : ∀ v ∈ (unknownName s' names').givenValues, v.Listable) :
    (unknownName s names).message = (unknownName s' names').message ↔ s = s' ∧ names = names' := by
  have hnames : listText names = listText names' ↔ names = names' := listText_inj h h'
  simp only [message_unknownName, String.append_assoc, String.append_right_inj,
    literal_append_inj, hnames]

/-- A name that holds a single quote stands in double ones, and a missing name in none. -/
example : (unknownName "x" [.text "y'", .null]).message =
    "key 'x' not found in tensor with names [\"y'\", None]" := by
  decide +kernel

theorem message_repeatedAxes_inj
    (h : ∀ v ∈ (repeatedAxes refs rank resolved).givenValues, v.Listable)
    (h' : ∀ v ∈ (repeatedAxes refs' rank' resolved').givenValues, v.Listable) :
    (repeatedAxes refs rank resolved).message = (repeatedAxes refs' rank' resolved').message ↔
      refs.map AxisRef.toValue = refs'.map AxisRef.toValue ∧ rank = rank' := by
  have hrefs : ∀ v ∈ refs.map AxisRef.toValue, v.Listable := h
  have hrefs' : ∀ v ∈ refs'.map AxisRef.toValue, v.Listable := h'
  have hrank : (rank : Int) - 1 = (rank' : Int) - 1 ↔ rank = rank' := by omega
  simp only [message_repeatedAxes, String.append_assoc, String.append_right_inj,
    listText_append_inj hrefs hrefs', toString_int_inj, hrank]

theorem message_contractionNames_inj :
    (contractionNames given repeated).message = (contractionNames given' repeated').message ↔
      given = given' := by
  have hlisted (names : List AxisName) : ∀ v ∈ names.map AxisName.toValue, v.Listable :=
    List.forall_mem_map.mpr fun n _ => n.listable_toValue
  simp only [message_contractionNames, String.append_assoc, String.append_right_inj,
    listText_append_inj (hlisted given) (hlisted given'), and_true,
    List.map_inj_right fun _ _ => AxisName.toValue_injective]

theorem message_pairClash_inj :
    (pairClash lhs rhs).message = (pairClash lhs' rhs').message ↔ lhs = lhs' ∧ rhs = rhs' := by
  simp only [message_pairClash, String.append_assoc, String.append_right_inj,
    Shape.literal_append_inj, Shape.literal_inj]

theorem message_mappingClash_inj :
    (mappingClash lhs rhs axes).message = (mappingClash lhs' rhs' axes').message ↔
      lhs = lhs' ∧ rhs = rhs' ∧ axes = axes' := by
  have hlisted (axes : List Int) : ∀ v ∈ axes.map Value.int, v.Listable :=
    List.forall_mem_map.mpr fun n _ => .int n
  simp only [message_mappingClash, String.append_assoc, String.append_right_inj,
    Shape.literal_append_inj, listText_inj (hlisted axes) (hlisted axes'),
    List.map_inj_right fun _ _ => Value.int.inj]

end Texts

section Diagnosed

variable {v : Violation} {d : Diagnostic}

theorem code_message_of_diagnose (h : v.diagnose.result = .ok d) :
    d.code = v.code ∧ d.message = v.message := by
  obtain ⟨-, hkept⟩ := Draft.keptBy_of_build (build_of_diagnose h)
  exact ⟨(GivenCode.code.inj hkept.code).symm, (Value.text.inj hkept.message).symm⟩

/-- What a caller handed in unchecked is reported in the data. -/
theorem exists_entry_of_mem_givenValues {given : Value} (h : given ∈ v.givenValues) :
    ∃ entry ∈ v.data, given ∈ entry.2.items := by
  cases v with
  | nameCount rank names =>
    exact ⟨("names", .tuple names), List.mem_cons_of_mem _ List.mem_cons_self, h⟩
  | unknownName axis names =>
    exact ⟨("names", .tuple names), List.mem_cons_of_mem _ List.mem_cons_self, h⟩
  | repeatedAxes refs rank resolved =>
    exact ⟨("axes", .tuple (refs.map AxisRef.toValue)), List.mem_cons_self, h⟩
  | _ => exact absurd h List.not_mem_nil

theorem listable_of_diagnose (h : v.diagnose.result = .ok d) :
    ∀ given ∈ v.givenValues, given.Listable := by
  intro given hgiven
  have hwell : v.draft.WellFormed := Draft.forall_requirements_iff.mp
    ((v.draft.decides_build .validation).exists_ok_iff.mp ⟨d, build_of_diagnose h⟩)
  obtain ⟨entry, he, hitem⟩ := exists_entry_of_mem_givenValues hgiven
  have hdata : (.text entry.1, entry.2) ∈ v.draft.data := by
    rw [draft_data_eq]
    exact List.mem_map.mpr ⟨entry, List.mem_cons_of_mem _ he, rfl⟩
  exact (hwell.values _ hdata).2 given hitem

end Diagnosed

end Violation

end TensorShape
