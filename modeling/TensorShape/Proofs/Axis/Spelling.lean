import TensorShape.Proofs.Axis.Lookup
import TensorShape.Proofs.Ending.Complaint

/-! # Spellings of an axis

An axis is spelled by its index from either end, or by a name that it is the first to have. A list
of references is resolved if each of them means an axis and no two mean the same. Otherwise the
first one that means no axis is complained of, even after two that mean the same, and if there is
none, the collision is. So neither the answer nor the kind of a failure depends on how axes are
spelled.
-/

namespace TensorShape

open Outcome

variable {α β : Type} {dims : Shape} {rank : ℕ} {names : List AxisName} {ref ref' : AxisRef}
  {refs refs' : List AxisRef} {axes : List ℤ} {i : ℤ} {c : Complaint}

theorem exists_getElem?_of_forall₂ {R : α → β → Prop} {xs : List α} {ys : List β}
    (h : List.Forall₂ R xs ys) {k : ℕ} {x : α} (hx : xs[k]? = some x) :
    ∃ y, ys[k]? = some y ∧ R x y := by
  induction h generalizing k with
  | nil => cases hx
  | cons hhead _ ih =>
    cases k with
    | zero =>
      cases hx
      exact ⟨_, rfl, hhead⟩
    | succ k => exact ih hx

namespace AxisRef

/-- The reference is an index within the shape, from either end, or one of the names. -/
def HasAxis (rank : ℕ) (names : List AxisName) : AxisRef → Prop
  | .index i => -(rank : ℤ) ≤ i ∧ i < rank
  | .name s => some s ∈ names
  | .unnamed => False
  | .other _ => False

instance (rank : ℕ) (names : List AxisName) : (ref : AxisRef) → Decidable (ref.HasAxis rank names)
  | .index _ => inferInstanceAs (Decidable (_ ∧ _))
  | .name s => inferInstanceAs (Decidable (some s ∈ names))
  | .unnamed => inferInstanceAs (Decidable False)
  | .other _ => inferInstanceAs (Decidable False)

inductive Meaningless (rank : ℕ) (names : List AxisName) : AxisRef → Complaint → Prop
  | unnamed : Meaningless rank names .unnamed (.rejection .axisLookup .nilAxis [])
  | name {s : String} : some s ∉ names →
    Meaningless rank names (.name s) (.rejection .axisLookup .unknownName
      [("axis", .text s), ("names", .tuple (names.map AxisName.toValue))])
  | index {i : ℤ} : i < -(rank : ℤ) ∨ rank ≤ i →
    Meaningless rank names (.index i) (.rejection .axisLookup .axisOutOfRange
      [("axis", .int i), ("rank", .nat rank)])
  | other {v : Value} : Meaningless rank names (.other v) (.fault (.axisKind v))

/-- The references are one, or spellings of one axis. -/
def SameAxis (rank : ℕ) (names : List AxisName) (ref ref' : AxisRef) : Prop :=
  ref = ref' ∨ ∃ i, ref.Means rank names i ∧ ref'.Means rank names i

theorem hasAxis_iff : ref.HasAxis rank names ↔ ∃ i, ref.Means rank names i := by
  constructor
  · intro h
    cases ref with
    | index i =>
      rcases lt_or_ge i 0 with hneg | h₀
      · exact ⟨_, .back h.1 hneg⟩
      · exact ⟨_, .front h₀ h.2⟩
    | name s =>
      cases hfind : (names.map AxisName.toValue).findIdx? (Value.isText s) with
      | none => exact absurd h (findIdx?_isText_eq_none_iff.mp hfind)
      | some k =>
        obtain ⟨hat, hbefore⟩ := findIdx?_isText_eq_some_iff.mp hfind
        exact ⟨k, .name hat hbefore⟩
    | unnamed => exact h.elim
    | other v => exact h.elim
  · rintro ⟨i, h⟩
    cases h with
    | front h₀ hlt => exact ⟨by omega, hlt⟩
    | back hge hneg => exact ⟨hge, by omega⟩
    | name hat _ => exact List.mem_of_getElem? hat

theorem hasAxis_or_meaningless (rank : ℕ) (names : List AxisName) (ref : AxisRef) :
    ref.HasAxis rank names ∨ ∃ c, ref.Meaningless rank names c := by
  cases ref with
  | index i =>
    by_cases h : -(rank : ℤ) ≤ i ∧ i < rank
    · exact Or.inl h
    · exact Or.inr ⟨_, .index (by omega)⟩
  | name s =>
    by_cases h : some s ∈ names
    · exact Or.inl h
    · exact Or.inr ⟨_, .name h⟩
  | unnamed => exact Or.inr ⟨_, .unnamed⟩
  | other v => exact Or.inr ⟨_, .other⟩

theorem Meaningless.not_hasAxis (h : ref.Meaningless rank names c) :
    ¬ ref.HasAxis rank names := by
  cases h with
  | unnamed => exact not_false
  | name hname => exact hname
  | index hi => exact fun ⟨hge, hlt⟩ => by omega
  | other => exact not_false

theorem Meaningless.failsAs_resolve (h : ref.Meaningless dims.length names c) :
    (ref.resolve dims (.ofNames (some names))).FailsAs c := by
  cases h with
  | unnamed => exact Violation.failsAs_reject_of_unquoted rfl
  | name hname =>
    have hfind := findIdx?_isText_eq_none_iff.mpr hname
    simp only [resolve, GivenNames.required, GivenNames.ofNames, Option.map_some, pure_bind, hfind]
    exact Violation.failsAs_reject (List.forall_mem_map.mpr fun n _ => Value.isKeptItem_name n)
  | index hi =>
    rw [resolve, if_neg (by omega), if_neg (by omega)]
    exact Violation.failsAs_reject_of_unquoted rfl
  | other => rfl

theorem Means.isKeptItem (h : ref.Means rank names i) : ref.toValue.IsKeptItem := by
  cases h with
  | front => exact ⟨.int _, rfl⟩
  | back => exact ⟨.int _, rfl⟩
  | name => exact ⟨.text _, rfl⟩

theorem SameAxis.means (h : ref.SameAxis rank names ref') (hi : ref.Means rank names i) :
    ref'.Means rank names i := by
  rcases h with rfl | ⟨j, hj, hj'⟩
  · exact hi
  · exact hi.unique hj ▸ hj'

theorem SameAxis.hasAxis (h : ref.SameAxis rank names ref') (hhas : ref.HasAxis rank names) :
    ref'.HasAxis rank names := by
  obtain ⟨i, hi⟩ := hasAxis_iff.mp hhas
  exact hasAxis_iff.mpr ⟨i, h.means hi⟩

theorem Meaningless.eq_of_sameAxis (h : ref.Meaningless rank names c)
    (hsame : ref.SameAxis rank names ref') : ref = ref' :=
  hsame.resolve_right fun ⟨i, hi, _⟩ => h.not_hasAxis (hasAxis_iff.mpr ⟨i, hi⟩)

end AxisRef

open AxisRef

/-- The complaint of a list of references that is not resolved. -/
inductive LookupFlaw (rank : ℕ) (names : List AxisName) (refs : List AxisRef) : Complaint → Prop
  | meaningless {k : ℕ} {ref : AxisRef} {c : Complaint} : refs[k]? = some ref →
    (∀ m < k, ∀ earlier, refs[m]? = some earlier → earlier.HasAxis rank names) →
    ref.Meaningless rank names c → LookupFlaw rank names refs c
  | collision {axes : List ℤ} : List.Forall₂ (Means rank names) refs axes → ¬ axes.Nodup →
    LookupFlaw rank names refs (.rejection .axisListing .duplicateAxes
      [("axes", .tuple (refs.map AxisRef.toValue)), ("normalized", .ints axes)])

section Lists

theorem forall_hasAxis_iff :
    (∀ ref ∈ refs, ref.HasAxis rank names) ↔
      ∃ axes, List.Forall₂ (Means rank names) refs axes := by
  induction refs with
  | nil => exact iff_of_true (fun _ hmem => absurd hmem List.not_mem_nil) ⟨[], .nil⟩
  | cons ref refs ih =>
    rw [List.forall_mem_cons, ih, hasAxis_iff]
    constructor
    · rintro ⟨⟨i, hi⟩, axes, haxes⟩
      exact ⟨i :: axes, .cons hi haxes⟩
    · rintro ⟨_, hall⟩
      cases hall with
      | cons hi haxes => exact ⟨⟨_, hi⟩, _, haxes⟩

theorem eq_of_forall₂_means {axes' : List ℤ} (h : List.Forall₂ (Means rank names) refs axes)
    (h' : List.Forall₂ (Means rank names) refs axes') : axes = axes' :=
  List.right_unique_forall₂' (fun _ _ _ hi hj => hi.unique hj) h h'

theorem succeeds_resolveAxes_iff :
    (resolveAxes dims refs (.ofNames (some names))).Succeeds ↔
      (∀ ref ∈ refs, ref.HasAxis dims.length names) ∧
        ∀ axes, List.Forall₂ (Means dims.length names) refs axes → axes.Nodup := by
  constructor
  · rintro ⟨axes, h⟩
    obtain ⟨hmeans, hnodup⟩ := result_resolveAxes_eq_ok.mp h
    refine ⟨forall_hasAxis_iff.mpr ⟨axes, hmeans⟩, fun axes' hmeans' => ?_⟩
    exact eq_of_forall₂_means hmeans hmeans' ▸ hnodup
  · rintro ⟨hhas, hnodup⟩
    obtain ⟨axes, hmeans⟩ := forall_hasAxis_iff.mp hhas
    exact ⟨axes, result_resolveAxes_eq_ok.mpr ⟨hmeans, hnodup axes hmeans⟩⟩

theorem forall₂_means_map_index (h : ∀ i ∈ axes, 0 ≤ i ∧ i < rank) :
    List.Forall₂ (Means rank names) (axes.map .index) axes := by
  rw [List.forall₂_map_left_iff, List.forall₂_same]
  exact fun i hi => .front (h i hi).1 (h i hi).2

/-- A list of references ends with the complaint of its flaw. -/
theorem LookupFlaw.failsAs (h : LookupFlaw dims.length names refs c) :
    (resolveAxes dims refs (.ofNames (some names))).FailsAs c := by
  cases h with
  | meaningless hat hbefore hbad =>
    refine (FailsAs.mapM hat hbad.failsAs_resolve fun m hm earlier hearlier => ?_).bind _
    obtain ⟨i, hi⟩ := hasAxis_iff.mp (hbefore m hm earlier hearlier)
    exact ⟨i, result_resolve_eq_ok.mpr hi⟩
  | collision hmeans hnodup =>
    rw [resolveAxes, mapM_resolve_eq_pure hmeans, pure_bind, if_neg hnodup]
    refine Violation.failsAs_reject (List.forall_mem_map.mpr fun ref href => ?_)
    obtain ⟨i, hi⟩ := hasAxis_iff.mp (forall_hasAxis_iff.mpr ⟨_, hmeans⟩ ref href)
    exact hi.isKeptItem

theorem succeeds_or_lookupFlaw (dims : Shape) (names : List AxisName) (refs : List AxisRef) :
    (resolveAxes dims refs (.ofNames (some names))).Succeeds ∨
      ∃ c, LookupFlaw dims.length names refs c := by
  by_cases hhas : ∀ ref ∈ refs, ref.HasAxis dims.length names
  · obtain ⟨axes, hmeans⟩ := forall_hasAxis_iff.mp hhas
    by_cases hnodup : axes.Nodup
    · exact Or.inl ⟨axes, result_resolveAxes_eq_ok.mpr ⟨hmeans, hnodup⟩⟩
    · exact Or.inr ⟨_, .collision hmeans hnodup⟩
  · simp only [not_forall, exists_prop] at hhas
    obtain ⟨k, ref, hat, hnone, hbefore⟩ := exists_first_not hhas
    obtain ⟨c, hbad⟩ := (hasAxis_or_meaningless _ _ ref).resolve_left hnone
    exact Or.inr ⟨c, .meaningless hat hbefore hbad⟩

end Lists

section Spelled

variable (hsame : List.Forall₂ (SameAxis rank names) refs refs')
include hsame

theorem forall₂_means_of_sameAxis (h : List.Forall₂ (Means rank names) refs axes) :
    List.Forall₂ (Means rank names) refs' axes := by
  induction hsame generalizing axes with
  | nil => exact h
  | cons hhead _ ih =>
    cases h with
    | cons hi haxes => exact .cons (hhead.means hi) (ih haxes)

theorem LookupFlaw.of_sameAxis (h : LookupFlaw rank names refs c) :
    ∃ c', LookupFlaw rank names refs' c' ∧ c'.sort = c.sort := by
  cases h with
  | meaningless hat hbefore hbad =>
    obtain ⟨ref', hat', href⟩ := exists_getElem?_of_forall₂ hsame hat
    obtain rfl := hbad.eq_of_sameAxis href
    refine ⟨c, .meaningless hat' (fun m hm later hlater => ?_) hbad, rfl⟩
    obtain ⟨earlier, hearlier, hspelled⟩ := exists_getElem?_of_forall₂ hsame.flip hlater
    exact SameAxis.hasAxis hspelled (hbefore m hm earlier hearlier)
  | collision hmeans hnodup =>
    exact ⟨_, .collision (forall₂_means_of_sameAxis hsame hmeans) hnodup, rfl⟩

end Spelled

/-- Where a shape has no more names than axes, references resolve to the axes that they mean exactly
if each of them means one and no two mean the same. These are positions of the shape, which resolve
again to themselves. Otherwise the first reference without an axis is complained of, or else the
collision. In any other spelling of the axes the answer is the same, or the failure is alike. -/
theorem resolveAxes_exact_in_any_spelling (dims : Shape) (names : List AxisName)
    (hnames : names.length ≤ dims.length) (refs : List AxisRef) :
    let x := resolveAxes dims refs (.ofNames (some names))
    (x.Succeeds ↔ (∀ ref ∈ refs, ref.HasAxis dims.length names) ∧
      ∀ axes, List.Forall₂ (Means dims.length names) refs axes → axes.Nodup) ∧
    (∀ axes, x.result = .ok axes →
      List.Forall₂ (Means dims.length names) refs axes ∧
      (∀ i ∈ axes, 0 ≤ i ∧ i < dims.length) ∧
      resolveAxes dims (axes.map .index) (.ofNames (some names)) = pure axes) ∧
    (¬ x.Succeeds → ∃ c, LookupFlaw dims.length names refs c) ∧
    (∀ c, LookupFlaw dims.length names refs c → x.FailsAs c) ∧
    ∀ refs', List.Forall₂ (SameAxis dims.length names) refs refs' →
      let y := resolveAxes dims refs' (.ofNames (some names))
      (∃ axes, x.result = .ok axes ∧ y.result = .ok axes) ∨ x.FailAlike y := by
  refine ⟨succeeds_resolveAxes_iff, fun axes h => ?_,
    (succeeds_or_lookupFlaw dims names refs).resolve_left, fun c => LookupFlaw.failsAs,
    fun refs' hsame => ?_⟩
  · obtain ⟨hmeans, hnodup⟩ := result_resolveAxes_eq_ok.mp h
    have hwithin := within_of_forall₂_means hmeans hnames
    have hagain : List.Forall₂ (Means dims.length names) (axes.map .index) axes :=
      forall₂_means_map_index hwithin
    refine ⟨hmeans, hwithin, ?_⟩
    rw [resolveAxes, mapM_resolve_eq_pure hagain, pure_bind, if_pos hnodup]
  · rcases succeeds_or_lookupFlaw dims names refs with ⟨axes, h⟩ | ⟨c, hc⟩
    · obtain ⟨hmeans, hnodup⟩ := result_resolveAxes_eq_ok.mp h
      exact Or.inl ⟨axes, h, result_resolveAxes_eq_ok.mpr
        ⟨forall₂_means_of_sameAxis hsame hmeans, hnodup⟩⟩
    · obtain ⟨c', hc', hsort⟩ := hc.of_sameAxis hsame
      exact Or.inr (hc.failsAs.failAlike hc'.failsAs hsort)

/-- The second of two equal names is that of no reference. An index outside the shape is complained
of although a name and an index before it mean one axis. -/
theorem resolveAxes_exact_in_any_spelling_repeated_name :
    let dims : Shape := [2, 3, 5]
    let names : List AxisName := [some "row", some "row"]
    let given : GivenNames := .ofNames (some names)
    names.length ≤ dims.length ∧
    (resolveAxes dims [.index (-1), .name "row"] given).result = .ok [2, 0] ∧
    resolveAxes dims [.index 2, .index 0] given = pure [2, 0] ∧
    (resolveAxes dims [.index 0, .name "row", .index 3, .unnamed] given).FailsAs
      (.rejection .axisLookup .axisOutOfRange [("axis", .int 3), ("rank", .nat 3)]) ∧
    ¬ (resolveAxes dims [.name "row", .index (-3)] given).Succeeds ∧
    (∃ c, LookupFlaw 3 names [.name "row", .index (-3)] c) ∧
    ((∃ axes, (resolveAxes dims [.name "row", .index (-3)] given).result = .ok axes ∧
        (resolveAxes dims [.index 0, .name "row"] given).result = .ok axes) ∨
      (resolveAxes dims [.name "row", .index (-3)] given).FailAlike
        (resolveAxes dims [.index 0, .name "row"] given)) := by
  intro dims names given
  have hnames : names.length ≤ dims.length := by decide
  have hrow : Means dims.length names (.name "row") 0 :=
    .name rfl fun j hj => absurd hj (Nat.not_lt_zero j)
  have hfirst : Means dims.length names (.index 0) 0 := .front (by decide) (by decide)
  have hback : Means dims.length names (.index (-3)) 0 := .back (by decide) (by decide)
  have hanswer : (resolveAxes dims [.index (-1), .name "row"] given).result = .ok [2, 0] :=
    Outcome.result_eq_ok_of_answer? (by decide +kernel)
  obtain ⟨-, hagain, -⟩ := resolveAxes_exact_in_any_spelling dims names hnames
    [.index (-1), .name "row"]
  obtain ⟨-, -, -, hfails, -⟩ := resolveAxes_exact_in_any_spelling dims names hnames
    [.index 0, .name "row", .index 3, .unnamed]
  obtain ⟨hsucceeds, -, hflaw, -, hspelled⟩ := resolveAxes_exact_in_any_spelling dims names hnames
    [.name "row", .index (-3)]
  have hnot : ¬ (resolveAxes dims [.name "row", .index (-3)] given).Succeeds := fun h =>
    absurd ((hsucceeds.mp h).2 [0, 0] (.cons hrow (.cons hback .nil))) (by decide)
  have hother : List.Forall₂ (SameAxis dims.length names) [.name "row", .index (-3)]
      [.index 0, .name "row"] :=
    .cons (Or.inr ⟨0, hrow, hfirst⟩) (.cons (Or.inr ⟨0, hback, hrow⟩) .nil)
  refine ⟨hnames, hanswer, (hagain _ hanswer).2.2, hfails _ (.meaningless (k := 2) rfl ?_ ?_), hnot,
    hflaw hnot, hspelled _ hother⟩
  · intro m hm earlier hearlier
    obtain rfl | rfl : m = 0 ∨ m = 1 := by omega
    · cases hearlier
      decide
    · cases hearlier
      decide
  · exact .index (by decide)

end TensorShape
