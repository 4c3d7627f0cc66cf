import TensorShape.Proofs.Axis.Composition
import TensorShape.Proofs.Operand
import TensorShape.Proofs.UnitRemoval

/-! # Unit axes

Removing unit axes is removing axes under a condition: the listed axes of the shape are unit axes.
If they are not, the first axis of the shape that is listed and has another dimension is reported,
wherever in the list it stands. The unit axes themselves can always be removed, and none is left.
-/

namespace TensorShape

open Outcome

section Shape

variable {dims : Shape} {axes : List ℤ} {n : ℕ} {d : ℤ}

theorem mem_unitAxes {i : ℤ} : i ∈ unitAxes dims ↔ entryAt? dims i = some 1 := by
  simp only [unitAxes, List.mem_map, List.mem_filter, beq_iff_eq]
  constructor
  · rintro ⟨⟨_, n⟩, ⟨hmem, rfl⟩, rfl⟩
    exact List.mem_zipIdx_iff_getElem?.mp hmem
  · intro h
    cases i with
    | ofNat n => exact ⟨(1, n), ⟨List.mk_mem_zipIdx_iff_getElem?.mpr h, rfl⟩, rfl⟩
    | negSucc n => cases h

theorem natCast_mem_unitAxes_iff (h : dims[n]? = some d) : (n : ℤ) ∈ unitAxes dims ↔ d = 1 := by
  rw [mem_unitAxes, entryAt?_natCast, h, Option.some.injEq]

theorem allUnit_iff :
    AllUnit dims axes ↔ ∀ i ∈ axes, 0 ≤ i ∧ i < dims.length → i ∈ unitAxes dims := by
  constructor
  · intro h i hi hwithin
    obtain ⟨d, hd⟩ := Option.isSome_iff_exists.mp (entryAt?_isSome.mpr hwithin)
    obtain rfl := h d (mem_selectAxes.mpr ⟨i, hi, hd⟩)
    exact mem_unitAxes.mpr hd
  · intro h d hd
    obtain ⟨i, hi, hentry⟩ := mem_selectAxes.mp hd
    have hwithin := entryAt?_isSome.mp (Option.isSome_of_eq_some hentry)
    exact Option.some.inj (hentry.symm.trans (mem_unitAxes.mp (h i hi hwithin)))

theorem allUnit_unitAxes (dims : Shape) : AllUnit dims (unitAxes dims) :=
  allUnit_iff.mpr fun _ hi _ => hi

theorem eraseAxes_unitAxes (dims : Shape) :
    eraseAxes (unitAxes dims) dims = dims.filter fun d => d ≠ 1 :=
  eraseAxes_eq_filter_of_iff fun _ _ h => not_congr (natCast_mem_unitAxes_iff h)

theorem unitAxes_eraseAxes_unitAxes (dims : Shape) :
    unitAxes (eraseAxes (unitAxes dims) dims) = [] := by
  rw [eraseAxes_unitAxes, List.eq_nil_iff_forall_not_mem]
  intro i hi
  have hmem := mem_of_entryAt? (mem_unitAxes.mp hi)
  exact of_decide_eq_true (List.mem_filter.mp hmem).2 rfl

/-- The first axis of a shape that is listed and has a dimension other than one. -/
structure FirstNonUnit (dims : Shape) (axes : List ℤ) (n : ℕ) (d : ℤ) : Prop where
  mem : (n : ℤ) ∈ axes
  dim : dims[n]? = some d
  ne_one : d ≠ 1
  before : ∀ m < n, (m : ℤ) ∈ axes → dims[m]? = some 1

theorem nonUnit?_eq_some_iff : nonUnit? dims axes = some (d, n) ↔ FirstNonUnit dims axes n d := by
  simp only [nonUnit?, List.find?_eq_some_iff_getElem, List.getElem_zipIdx, List.length_zipIdx,
    Nat.zero_add, Prod.mk.injEq, decide_eq_true_eq, Bool.not_eq_true', decide_eq_false_iff_not,
    not_and, not_not]
  constructor
  · rintro ⟨⟨hmem, hne⟩, _, hn, ⟨rfl, rfl⟩, hbefore⟩
    refine ⟨hmem, List.getElem?_eq_getElem hn, hne, fun m hm hlisted => ?_⟩
    rw [List.getElem?_eq_getElem (hm.trans hn), hbefore m hm hlisted]
  · rintro ⟨hmem, hdim, hne, hbefore⟩
    obtain ⟨hn, hd⟩ := List.getElem?_eq_some_iff.mp hdim
    refine ⟨⟨hmem, hne⟩, n, hn, ⟨hd, rfl⟩, fun m hm hlisted => ?_⟩
    exact (List.getElem?_eq_some_iff.mp (hbefore m hm hlisted)).2

theorem allUnit_or_firstNonUnit (dims : Shape) (axes : List ℤ) :
    AllUnit dims axes ∨ ∃ n d, FirstNonUnit dims axes n d := by
  cases h : nonUnit? dims axes with
  | none => exact Or.inl (nonUnit?_eq_none_iff.mp h)
  | some found => exact Or.inr ⟨found.2, found.1, nonUnit?_eq_some_iff.mp h⟩

end Shape

section Removal

variable {s : NamedShape} {o : Operand} {c : Complaint} {axes : List ℤ} {n : ℕ} {d : ℤ}

theorem pairs_erase_unitAxes (hs : s.Aligned) :
    (s.erase (unitAxes s.dims)).pairs = s.pairs.filter fun axis => axis.1 ≠ 1 := by
  rw [LabelledShape.pairs_erase hs]
  refine eraseAxes_eq_filter_of_iff fun n axis haxis => not_congr ?_
  obtain ⟨hdim, -⟩ := List.getElem?_zip_eq_some.mp haxis
  exact natCast_mem_unitAxes_iff hdim

theorem Operand.Named.removeUnitAxes_eq_pure (h : o.Named) (hunit : AllUnit o.dims axes) :
    removeUnitAxes o.dims axes o.given = pure (o.shape.erase axes) :=
  (removeUnitAxes_eq_removeAxes hunit).trans (h.removeAxes_eq_pure axes)

theorem Operand.Misnamed.failsAs_removeUnitAxes (h : o.Misnamed c) (axes : List ℤ) :
    (removeUnitAxes o.dims axes o.given).FailsAs c :=
  h.failsAs_assign.bind _

theorem FirstNonUnit.failsAs (h : o.Named) (hfirst : FirstNonUnit o.dims axes n d) :
    (removeUnitAxes o.dims axes o.given).FailsAs
      (.rejection .unitRemoval .squeezeNonUnitDim [("axis", .nat n), ("size", .int d)]) := by
  rw [removeUnitAxes_eq, h.assign_given, pure_bind, nonUnit?_eq_some_iff.mpr hfirst]
  exact Violation.failsAs_reject_of_unquoted rfl

theorem Operand.Named.succeeds_removeUnitAxes_iff (h : o.Named) :
    (removeUnitAxes o.dims axes o.given).Succeeds ↔ AllUnit o.dims axes := by
  constructor
  · intro hsucceeds
    refine (allUnit_or_firstNonUnit o.dims axes).resolve_right ?_
    rintro ⟨n, d, hfirst⟩
    exact (hfirst.failsAs h).not_succeeds hsucceeds
  · intro hunit
    exact h.removeUnitAxes_eq_pure hunit ▸ succeeds_pure _

end Removal

/-- Where the names are of a wrong number, both removals are rejected for it. Otherwise unit axes
are removed exactly if all listed axes of the shape are unit axes, and then as any axes are; if not,
the first listed axis of another dimension is reported with it. Removing all unit axes leaves the
other ones with their names, and no unit axis. -/
theorem unit_removal_restricts_removal (o : Operand) (axes : List ℤ) :
    let unit := removeUnitAxes o.dims axes o.given
    let plain := removeAxes o.dims axes o.given
    (¬ o.Named → unit.RejectedWith .rankMismatch ∧ plain.RejectedWith .rankMismatch) ∧
    (o.Named →
      (unit.Succeeds ↔ ∀ i ∈ axes, 0 ≤ i ∧ i < o.dims.length → i ∈ unitAxes o.dims) ∧
      (unit.Succeeds → unit = plain) ∧
      (¬ unit.Succeeds → ∃ n d, FirstNonUnit o.dims axes n d ∧ unit.FailsAs
        (.rejection .unitRemoval .squeezeNonUnitDim [("axis", .nat n), ("size", .int d)])) ∧
      ∃ r, removeUnitAxes o.dims (unitAxes o.dims) o.given = pure r ∧ r.Aligned ∧
        r.pairs = o.shape.pairs.filter (fun axis => axis.1 ≠ 1) ∧ unitAxes r.dims = []) := by
  intro unit plain
  constructor
  · intro hnamed
    obtain ⟨c, hc⟩ := o.named_or_misnamed.resolve_left hnamed
    exact ⟨(hc.failsAs_removeUnitAxes axes).rejectedWith hc.sort_eq,
      (hc.failsAs_removeAxes axes).rejectedWith hc.sort_eq⟩
  · intro hnamed
    have hsucceeds : unit.Succeeds ↔ AllUnit o.dims axes := hnamed.succeeds_removeUnitAxes_iff
    refine ⟨hsucceeds.trans allUnit_iff, fun h => ?_, fun h => ?_,
      _, hnamed.removeUnitAxes_eq_pure (allUnit_unitAxes o.dims),
      LabelledShape.aligned_erase hnamed.aligned _, pairs_erase_unitAxes hnamed.aligned,
      unitAxes_eraseAxes_unitAxes o.dims⟩
    · exact removeUnitAxes_eq_removeAxes (hsucceeds.mp h)
    · have hnot := mt hsucceeds.mpr h
      obtain ⟨n, d, hfirst⟩ := (allUnit_or_firstNonUnit o.dims axes).resolve_left hnot
      exact ⟨n, d, hfirst, hfirst.failsAs hnamed⟩

/-- In the first list one axis comes twice and two entries are no axes of the shape. In the second
list the last axis comes before the second one, which is reported. -/
theorem unit_removal_restricts_removal_unordered :
    let o : Operand := ⟨[1, 3, 1, 2], some [none, some "row", some "unit", some "column"]⟩
    let misnamed : Operand := ⟨[1, 3], some [some "row"]⟩
    let r : NamedShape := ⟨[1, 3, 2], [none, some "row", some "column"]⟩
    let bare : NamedShape := ⟨[3, 2], [some "row", some "column"]⟩
    o.Named ∧ ¬ misnamed.Named ∧
      removeUnitAxes o.dims [2, -2, 9, 2] o.given = pure r ∧
      removeAxes o.dims [2, -2, 9, 2] o.given = pure r ∧
      (removeUnitAxes o.dims [7, 3, -1, 1, 1] o.given).FailsAs
        (.rejection .unitRemoval .squeezeNonUnitDim [("axis", .nat 1), ("size", .int 3)]) ∧
      removeUnitAxes o.dims (unitAxes o.dims) o.given = pure bare ∧ unitAxes bare.dims = [] ∧
      (removeUnitAxes misnamed.dims [0] misnamed.given).RejectedWith .rankMismatch := by
  intro o misnamed r bare
  have ho : o.Named := by decide
  have hmisnamed : ¬ misnamed.Named := by decide
  have hplain : (removeAxes o.dims [2, -2, 9, 2] o.given).result = .ok r :=
    Outcome.result_eq_ok_of_answer? (by decide +kernel)
  have hbare : (removeUnitAxes o.dims (unitAxes o.dims) o.given).result = .ok bare :=
    Outcome.result_eq_ok_of_answer? (by decide +kernel)
  obtain ⟨-, hnamed⟩ := unit_removal_restricts_removal o [2, -2, 9, 2]
  obtain ⟨hiff, hsame, -, left, hall, -, -, hnone⟩ := hnamed ho
  obtain ⟨-, hnamed'⟩ := unit_removal_restricts_removal o [7, 3, -1, 1, 1]
  obtain ⟨hiff', -, hrejected, -⟩ := hnamed' ho
  obtain ⟨hrank, -⟩ := (unit_removal_restricts_removal misnamed [0]).1 hmisnamed
  obtain rfl := result_pure_eq_ok.mp (hall ▸ hbare)
  obtain ⟨n, d, hfirst, hfails⟩ := hrejected (mt hiff'.mp (by decide))
  have hfound : nonUnit? o.dims [7, 3, -1, 1, 1] = some (3, 1) := by decide
  obtain ⟨rfl, rfl⟩ := Prod.mk.inj (Option.some.inj
    ((nonUnit?_eq_some_iff.mpr hfirst).symm.trans hfound))
  have hpure := ho.removeAxes_eq_pure [2, -2, 9, 2]
  rw [hpure, result_pure_eq_ok] at hplain
  rw [hplain] at hpure
  have hunit := (hsame (hiff.mpr (by decide))).trans hpure
  exact ⟨ho, hmisnamed, hunit, hpure, hfails, hall, hnone, hrank⟩

end TensorShape
