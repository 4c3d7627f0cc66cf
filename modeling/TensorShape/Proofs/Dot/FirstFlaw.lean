import TensorShape.Proofs.Axis.Rearrangement
import TensorShape.Proofs.Axis.Repetition
import TensorShape.Proofs.Checked.Faults
import TensorShape.Proofs.Operand

/-! # The first flaw of a contraction

A contraction checks its operands in a fixed order: the number of axes, the pairs of axes one after
the other, the names of the left operand, those of the right one, and the names of the result. It
ends with the complaint of the first check that fails, and answers exactly if none does. Axes are
read from either end, but only those that are counted from the front vanish.
-/

namespace TensorShape

open Outcome

def Fault.outside (axis : ℤ) : Fault := if IndexSized axis then .axisOutside else .axisOversized

theorem Fault.category_outside (axis : ℤ) : (outside axis).category = .index := by
  unfold outside
  split <;> rfl

/-- There are as many axes of one shape as of the other, and all pairs can be contracted. -/
structure AllContractible (lhs rhs : Shape) (a b : List ℤ) : Prop where
  length_eq : a.length = b.length
  contractible : ∀ pair ∈ a.zip b, Contractible lhs rhs pair.1 pair.2

/-- There are as many axes of one shape as of the other, and all pairs before that of `i` and `j`,
at a position, can be contracted. -/
structure ComesTo (lhs rhs : Shape) (a b : List ℤ) (k : ℕ) (i j : ℤ) : Prop where
  length_eq : a.length = b.length
  pair : (a.zip b)[k]? = some (i, j)
  before : ∀ m < k, ∀ earlier, (a.zip b)[m]? = some earlier →
    Contractible lhs rhs earlier.1 earlier.2

namespace Operand

def kept (axes : List ℤ) (o : Operand) : List ℤ :=
  (allAxes o.dims.length).filter fun axis => axis ∉ axes

def rest (axes : List ℤ) (o : Operand) : NamedShape := o.shape.select (o.kept axes)

end Operand

/-- The complaint of a contraction for the first check that fails. -/
inductive DotFlaw (l : Operand) (a : List ℤ) (r : Operand) (b : List ℤ) : Complaint → Prop
  | count : a.length ≠ b.length →
    DotFlaw l a r b (.rejection .contraction .rankMismatch
      [("lhs_axes", .ints a), ("rhs_axes", .ints b)])
  | lhsOutside {k : ℕ} {i j : ℤ} : ComesTo l.dims r.dims a b k i j → ¬ Reaches l.dims i →
    DotFlaw l a r b (.fault (.outside i))
  | rhsOutside {k : ℕ} {i j : ℤ} : ComesTo l.dims r.dims a b k i j → Reaches l.dims i →
    ¬ Reaches r.dims j → DotFlaw l a r b (.fault (.outside j))
  | clash {k : ℕ} {i j d e : ℤ} : ComesTo l.dims r.dims a b k i j →
    entryFromEitherEnd? l.dims i = some d → entryFromEitherEnd? r.dims j = some e → d ≠ e →
    DotFlaw l a r b (.rejection .contraction .dimensionMismatch
      [("lhs_axis", .int i), ("lhs_dim", .int d), ("rhs_axis", .int j), ("rhs_dim", .int e)])
  | lhsNames {c : Complaint} : AllContractible l.dims r.dims a b → l.Misnamed c → DotFlaw l a r b c
  | rhsNames {c : Complaint} : AllContractible l.dims r.dims a b → l.Named → r.Misnamed c →
    DotFlaw l a r b c
  | repeated : AllContractible l.dims r.dims a b → l.Named → r.Named →
    ¬ ((l.rest a).names ++ (r.rest b).names).reduceOption.Nodup →
    DotFlaw l a r b (.rejection .contraction .duplicateNames
      [("names", .tuple (((l.rest a).names ++ (r.rest b).names).map AxisName.toValue)),
        ("duplicates", .texts (secondOccurrences ((l.rest a).names ++ (r.rest b).names)))])

variable {lhs rhs : Shape} {l r : Operand} {a b : List ℤ} {i j d e : ℤ} {k : ℕ} {c : Complaint}

section Pairs

theorem allContractible_iff_matching : AllContractible lhs rhs a b ↔ Matching lhs rhs a b := by
  rw [matching_iff_zip]
  constructor
  · rintro ⟨hlen, hall⟩
    refine ⟨hlen, fun pair hpair => ?_⟩
    obtain ⟨⟨hl, -⟩, heq⟩ := hall pair hpair
    obtain ⟨d, hd⟩ := reaches_iff.mp hl
    exact ⟨d, hd, heq.symm.trans hd⟩
  · rintro ⟨hlen, hall⟩
    refine ⟨hlen, fun pair hpair => ?_⟩
    obtain ⟨d, hl, hr⟩ := hall pair hpair
    exact ⟨⟨reaches_iff.mpr ⟨d, hl⟩, reaches_iff.mpr ⟨d, hr⟩⟩, hl.trans hr.symm⟩

theorem dimensionAt_of_not_reaches (h : ¬ Reaches lhs i) :
    dimensionAt lhs i = .fault (.outside i) := by
  have hnone : entryFromEitherEnd? lhs i = none :=
    Option.eq_none_iff_forall_ne_some.mpr fun d hd => h (reaches_iff.mpr ⟨d, hd⟩)
  rw [dimensionAt, hnone]
  rfl

theorem dimensionAt_of_entry (h : entryFromEitherEnd? lhs i = some d) :
    dimensionAt lhs i = pure d := by
  rw [dimensionAt, h]

theorem failsAs_checkContracted_of_lhs (h : ¬ Reaches lhs i) :
    (checkContracted lhs rhs (i, j)).FailsAs (.fault (.outside i)) := by
  rw [checkContracted, dimensionAt_of_not_reaches h]
  rfl

theorem failsAs_checkContracted_of_rhs (hl : Reaches lhs i) (hr : ¬ Reaches rhs j) :
    (checkContracted lhs rhs (i, j)).FailsAs (.fault (.outside j)) := by
  obtain ⟨d, hd⟩ := reaches_iff.mp hl
  rw [checkContracted, dimensionAt_of_entry hd, pure_bind, dimensionAt_of_not_reaches hr]
  rfl

theorem failsAs_checkContracted_of_ne (hl : entryFromEitherEnd? lhs i = some d)
    (hr : entryFromEitherEnd? rhs j = some e) (hne : d ≠ e) :
    (checkContracted lhs rhs (i, j)).FailsAs (.rejection .contraction .dimensionMismatch
      [("lhs_axis", .int i), ("lhs_dim", .int d), ("rhs_axis", .int j), ("rhs_dim", .int e)]) := by
  rw [checkContracted, dimensionAt_of_entry hl, pure_bind, dimensionAt_of_entry hr, pure_bind,
    if_neg hne]
  exact Violation.failsAs_reject_of_unquoted rfl

theorem ComesTo.failsAs_dot {lhsNames rhsNames : GivenNames} (h : ComesTo lhs rhs a b k i j)
    (hpair : (checkContracted lhs rhs (i, j)).FailsAs c) :
    (dot lhs a lhsNames rhs b rhsNames).FailsAs c := by
  have hforM : ((a.zip b).forM (checkContracted lhs rhs)).FailsAs c :=
    FailsAs.forM h.pair hpair fun m hm earlier hearlier =>
      succeeds_checkContracted_iff.mpr (h.before m hm earlier hearlier)
  rw [dot, if_neg (not_not.mpr h.length_eq)]
  exact hforM.bind _

/-- Unless all pairs can be contracted, or the axes are not equally many, a contraction comes to a
pair that cannot. -/
theorem exists_comesTo (hlen : a.length = b.length) (h : ¬ AllContractible lhs rhs a b) :
    ∃ k i j, ComesTo lhs rhs a b k i j ∧ ¬ Contractible lhs rhs i j := by
  have hbad : ∃ pair ∈ a.zip b, ¬ Contractible lhs rhs pair.1 pair.2 := by
    by_contra hnone
    exact h ⟨hlen, fun pair hpair => by_contra fun hpairbad => hnone ⟨pair, hpair, hpairbad⟩⟩
  obtain ⟨k, ⟨i, j⟩, hpair, hpairbad, hbefore⟩ := exists_first_not hbad
  exact ⟨k, i, j, ⟨hlen, hpair, hbefore⟩, hpairbad⟩

end Pairs

namespace Operand

theorem Named.rest_eq_erase {o : Operand} (h : o.Named) (axes : List ℤ) :
    o.rest axes = o.shape.erase axes := by
  have hnames := eraseAxes_eq_selectAxes axes o.shape.names
  rw [h.aligned] at hnames
  exact congrArg₂ LabelledShape.mk (eraseAxes_eq_selectAxes axes o.dims).symm hnames.symm

theorem Named.removeAxes_eq_rest {o : Operand} (h : o.Named) (axes : List ℤ) :
    removeAxes o.dims axes o.given = pure (o.rest axes) := by
  rw [h.removeAxes_eq_pure, h.rest_eq_erase]

end Operand

section Names

theorem AllContractible.dot_eq (h : AllContractible l.dims r.dims a b) :
    dot l.dims a l.given r.dims b r.given =
      removeAxes l.dims a l.given >>= fun left => removeAxes r.dims b r.given >>= fun right =>
        if repeatedNames (left.append right).names = [] then pure (left.append right)
        else reject (.contractionNames (left.append right).names
          (repeatedNames (left.append right).names)) := by
  rw [dot, if_neg (not_not.mpr h.length_eq),
    (allContractible_iff_matching.mp h).forM_eq_pure, pure_bind]

theorem AllContractible.dot_eq_of_named (h : AllContractible l.dims r.dims a b) (hl : l.Named)
    (hr : r.Named) :
    dot l.dims a l.given r.dims b r.given =
      if ((l.rest a).names ++ (r.rest b).names).reduceOption.Nodup then
        pure ((l.rest a).append (r.rest b))
      else reject (.contractionNames ((l.rest a).names ++ (r.rest b).names)
        (secondOccurrences ((l.rest a).names ++ (r.rest b).names))) := by
  simp only [← repeatedNames_eq_nil_iff, ← repeatedNames_eq_secondOccurrences]
  rw [h.dot_eq, hl.removeAxes_eq_rest, pure_bind, hr.removeAxes_eq_rest, pure_bind]
  rfl

end Names

/-- A contraction ends with the complaint of its first flaw. -/
theorem DotFlaw.failsAs (h : DotFlaw l a r b c) :
    (dot l.dims a l.given r.dims b r.given).FailsAs c := by
  cases h with
  | count hlen =>
    rw [dot, if_pos hlen]
    exact Violation.failsAs_reject_of_unquoted rfl
  | lhsOutside hat hl => exact hat.failsAs_dot (failsAs_checkContracted_of_lhs hl)
  | rhsOutside hat hl hr => exact hat.failsAs_dot (failsAs_checkContracted_of_rhs hl hr)
  | clash hat hl hr hne => exact hat.failsAs_dot (failsAs_checkContracted_of_ne hl hr hne)
  | lhsNames hall hl =>
    rw [hall.dot_eq]
    exact (hl.failsAs_removeAxes a).bind _
  | rhsNames hall hl hr =>
    rw [hall.dot_eq, hl.removeAxes_eq_rest, pure_bind]
    exact (hr.failsAs_removeAxes b).bind _
  | repeated hall hl hr hnames =>
    rw [hall.dot_eq_of_named hl hr, if_neg hnames]
    exact Violation.failsAs_reject_of_unquoted rfl

/-- A contraction answers exactly if all pairs can be contracted, the names are as many as the axes
and no name is left twice. -/
theorem result_dot_given_eq_ok {s : NamedShape} :
    (dot l.dims a l.given r.dims b r.given).result = .ok s ↔
      AllContractible l.dims r.dims a b ∧ l.Named ∧ r.Named ∧
        ((l.rest a).names ++ (r.rest b).names).reduceOption.Nodup ∧
          (l.rest a).append (r.rest b) = s := by
  constructor
  · intro h
    have hsucceeds : (dot l.dims a l.given r.dims b r.given).Succeeds := ⟨s, h⟩
    have hall := allContractible_iff_matching.mpr (matching_of_dot h)
    rcases l.named_or_misnamed with hl | ⟨c, hl⟩
    · rcases r.named_or_misnamed with hr | ⟨c, hr⟩
      · rw [hall.dot_eq_of_named hl hr] at h
        split at h
        · exact ⟨hall, hl, hr, ‹_›, result_pure_eq_ok.mp h⟩
        · exact absurd h (result_reject_ne_ok _ _)
      · exact absurd hsucceeds (DotFlaw.rhsNames hall hl hr).failsAs.not_succeeds
    · exact absurd hsucceeds (DotFlaw.lhsNames hall hl).failsAs.not_succeeds
  · rintro ⟨hall, hl, hr, hnames, rfl⟩
    rw [hall.dot_eq_of_named hl hr, if_pos hnames, result_pure]

theorem succeeds_or_dotFlaw (l : Operand) (a : List ℤ) (r : Operand) (b : List ℤ) :
    (dot l.dims a l.given r.dims b r.given).Succeeds ∨ ∃ c, DotFlaw l a r b c := by
  by_cases hlen : a.length = b.length
  · by_cases hall : AllContractible l.dims r.dims a b
    · rcases l.named_or_misnamed with hl | ⟨c, hl⟩
      · rcases r.named_or_misnamed with hr | ⟨c, hr⟩
        · by_cases hnames : ((l.rest a).names ++ (r.rest b).names).reduceOption.Nodup
          · exact Or.inl ⟨_, result_dot_given_eq_ok.mpr ⟨hall, hl, hr, hnames, rfl⟩⟩
          · exact Or.inr ⟨_, .repeated hall hl hr hnames⟩
        · exact Or.inr ⟨c, .rhsNames hall hl hr⟩
      · exact Or.inr ⟨c, .lhsNames hall hl⟩
    · obtain ⟨k, i, j, hat, hbad⟩ := exists_comesTo hlen hall
      by_cases hl : Reaches l.dims i
      · by_cases hr : Reaches r.dims j
        · obtain ⟨d, hd⟩ := reaches_iff.mp hl
          obtain ⟨e, he⟩ := reaches_iff.mp hr
          refine Or.inr ⟨_, .clash hat hd he fun hde => hbad ⟨⟨hl, hr⟩, ?_⟩⟩
          rw [hd, he, hde]
        · exact Or.inr ⟨_, .rhsOutside hat hl hr⟩
      · exact Or.inr ⟨_, .lhsOutside hat hl⟩
  · exact Or.inr ⟨_, .count hlen⟩

/-- A contraction answers what is left of its operands, one after the other, exactly if all pairs of
axes can be contracted, either operand has no names or one for each axis, and no name is left twice.
It ends with the complaint of its first flaw otherwise. -/
theorem dot_answers_or_tells_first_flaw (l : Operand) (a : List ℤ) (r : Operand) (b : List ℤ) :
    let x := dot l.dims a l.given r.dims b r.given
    (x.Succeeds ↔ AllContractible l.dims r.dims a b ∧ l.Named ∧ r.Named ∧
      ((l.rest a).names ++ (r.rest b).names).reduceOption.Nodup) ∧
    (∀ s, x.result = .ok s → s = (l.rest a).append (r.rest b)) ∧
    (¬ x.Succeeds → ∃ c, DotFlaw l a r b c) ∧
    ∀ c, DotFlaw l a r b c → x.FailsAs c := by
  refine ⟨?_, fun s hs => ?_, fun h => ?_, fun c => DotFlaw.failsAs⟩
  · constructor
    · rintro ⟨s, hs⟩
      obtain ⟨hall, hl, hr, hnames, -⟩ := result_dot_given_eq_ok.mp hs
      exact ⟨hall, hl, hr, hnames⟩
    · rintro ⟨hall, hl, hr, hnames⟩
      exact ⟨_, result_dot_given_eq_ok.mpr ⟨hall, hl, hr, hnames, rfl⟩⟩
  · obtain ⟨-, -, -, -, heq⟩ := result_dot_given_eq_ok.mp hs
    exact heq.symm
  · exact (succeeds_or_dotFlaw l a r b).resolve_left h

/-- An axis that is counted from the end is compared and stays. An axis outside its shape is not
complained of before the pair that comes first, and a repeated name once, however often it is
left. -/
theorem dot_answers_or_tells_first_flaw_from_end :
    let l : Operand := ⟨[2, 3], some [some "row", none]⟩
    let r : Operand := ⟨[3, 2, 2], some [none, some "row", some "row"]⟩
    (∃ s, (dot l.dims [-1] l.given [3] [0] (Operand.mk [3] none).given).result = .ok s ∧
      s = ⟨[2, 3], [some "row", none]⟩) ∧
    (¬ (dot l.dims [-1, 0, 7] l.given r.dims [0, 3, 1] r.given).Succeeds ∧
      (∃ c, DotFlaw l [-1, 0, 7] r [0, 3, 1] c) ∧
      (dot l.dims [-1, 0, 7] l.given r.dims [0, 3, 1] r.given).FailsAs (.fault .axisOutside)) ∧
    (dot l.dims [1] l.given r.dims [0] r.given).FailsAs (.rejection .contraction .duplicateNames
      [("names", .tuple [.text "row", .text "row", .text "row"]),
        ("duplicates", .texts ["row"])]) := by
  intro l r
  have hfirst : (dot l.dims [-1] l.given [3] [0] (Operand.mk [3] none).given).result =
      .ok ⟨[2, 3], [some "row", none]⟩ :=
    Outcome.result_eq_ok_of_answer? (by decide +kernel)
  have hat : ComesTo l.dims r.dims [-1, 0, 7] [0, 3, 1] 1 0 3 := by
    refine ⟨rfl, rfl, fun m hm earlier hearlier => ?_⟩
    obtain rfl := Nat.lt_one_iff.mp hm
    cases hearlier
    exact ⟨by decide, rfl⟩
  obtain ⟨-, -, hflaw, hfails⟩ := dot_answers_or_tells_first_flaw l [-1, 0, 7] r [0, 3, 1]
  have houtside := hfails _ (.rhsOutside hat (by decide) (by decide))
  have hall : AllContractible l.dims r.dims [1] [0] := by
    refine ⟨rfl, fun pair hpair => ?_⟩
    obtain rfl := List.mem_singleton.mp hpair
    exact ⟨by decide, rfl⟩
  refine ⟨⟨_, hfirst, ?_⟩, ⟨houtside.not_succeeds, hflaw houtside.not_succeeds, houtside⟩, ?_⟩
  · exact (dot_answers_or_tells_first_flaw l [-1] ⟨[3], none⟩ [0]).2.1 _ hfirst
  · exact (dot_answers_or_tells_first_flaw l [1] r [0]).2.2.2 _
      (.repeated hall (by decide) (by decide) (by decide))

end TensorShape
