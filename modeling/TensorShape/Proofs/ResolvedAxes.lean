import TensorShape.Proofs.Attachment
import TensorShape.Proofs.Axis.Lookup
import TensorShape.Proofs.Axis.Rearrangement
import TensorShape.Proofs.Axis.Repetition
import TensorShape.Proofs.UnitRemoval

/-! # Operations on resolved axes

No operation checks the axes that it is given against its shape as looking them up does, but on axes
that were looked up none needs to. Removing such axes never fails, and removing unit axes or
contracting only fails for what the dimensions and the names are.
-/

namespace TensorShape

open Outcome

variable {s t : NamedShape} {axes others : List ℤ}

namespace LabelledShape

theorem pairs_select_perm (hs : s.Aligned) (h : DistinctAxes s.rank axes)
    (hlen : axes.length = s.rank) : (s.select axes).pairs.Perm s.pairs := by
  rw [pairs_select hs]
  rw [← length_pairs hs] at h hlen
  exact selectAxes_perm h hlen

end LabelledShape

section Removal

theorem rank_erase_add_length (h : DistinctAxes s.rank axes) :
    (s.erase axes).rank + axes.length = s.rank := by
  have hrank := LabelledShape.rank_erase h
  omega

theorem removeUnitAxes_eq_pure_or_rejected (hs : s.Aligned) (axes : List ℤ) :
    removeUnitAxes s.dims axes s.given = pure (s.erase axes) ∨
      (removeUnitAxes s.dims axes s.given).RejectedWith .squeezeNonUnitDim := by
  by_cases h : AllUnit s.dims axes
  · exact Or.inl (removeUnitAxes_eq_pure hs h)
  · exact Or.inr (rejectedWith_removeUnitAxes hs h)

end Removal

theorem permute_eq_pure (hs : s.Aligned) (hwithin : ∀ axis ∈ axes, 0 ≤ axis ∧ axis < s.rank)
    (hlen : axes.length = s.rank) : permute s.dims axes s.given = pure (s.select axes) := by
  have hnone : axes.find? (fun axis => decide (axis < 0 ∨ (s.dims.length : ℤ) ≤ axis)) = none := by
    rw [List.find?_eq_none]
    intro axis haxis
    obtain ⟨hnonneg, hlt⟩ := hwithin axis haxis
    simp only [decide_eq_true_eq]
    unfold LabelledShape.rank at hlt
    omega
  have hcount : axes.length = s.dims.length := hlen
  rw [permute, hs.assign_given, pure_bind, if_neg (not_not.mpr hcount), hnone]
  exact LabelledShape.build_eq_pure (LabelledShape.aligned_select hs hwithin)

section Contraction

theorem exists_dimensionAt (h : DistinctAxes s.rank axes) {axis : ℤ} (haxis : axis ∈ axes) :
    ∃ d, dimensionAt s.dims axis = pure d := by
  have hnonneg := h.nonneg axis haxis
  have hsome := entryFromEitherEnd?_isSome.mpr ⟨by omega, h.lt axis haxis⟩
  obtain ⟨d, hd⟩ := Option.isSome_iff_exists.mp hsome
  exact ⟨d, by rw [dimensionAt, hd]⟩

theorem ends_dot_of_length_eq (hs : s.Aligned) (ht : t.Aligned) (ha : DistinctAxes s.rank axes)
    (hb : DistinctAxes t.rank others) (hlen : axes.length = others.length) :
    (dot s.dims axes s.given t.dims others t.given).Ends
      (Violation.OneOf [.dimensionMismatch, .duplicateNames]) fun _ => False := by
  rw [dot, if_neg (not_not.mpr hlen)]
  refine (Ends.forM fun pair hpair => ?_).bind fun _ _ => ?_
  · obtain ⟨hl, hr⟩ := List.of_mem_zip hpair
    obtain ⟨d, hd⟩ := exists_dimensionAt ha hl
    obtain ⟨e, he⟩ := exists_dimensionAt hb hr
    rw [checkContracted, hd, pure_bind, he, pure_bind]
    split
    · exact .answer ()
    · exact .rejection ⟨rfl, by simp [Violation.code]⟩
  · rw [removeAxes_eq_pure hs, pure_bind, removeAxes_eq_pure ht, pure_bind]
    dsimp only
    split
    · exact .answer _
    · exact .rejection ⟨rfl, by simp [Violation.code]⟩

theorem rejectedWith_dot_of_length_ne (hlen : axes.length ≠ others.length) :
    (dot s.dims axes s.given t.dims others t.given).RejectedWith .rankMismatch := by
  rw [dot, if_pos hlen]
  exact Violation.rejectedWith_reject fun _ hm => absurd hm List.not_mem_nil

theorem rejectedWith_rankMismatch_dot_iff (hs : s.Aligned) (ht : t.Aligned)
    (ha : DistinctAxes s.rank axes) (hb : DistinctAxes t.rank others) :
    (dot s.dims axes s.given t.dims others t.given).RejectedWith .rankMismatch ↔
      axes.length ≠ others.length := by
  refine ⟨fun h hlen => ?_, rejectedWith_dot_of_length_ne⟩
  rcases (ends_dot_of_length_eq hs ht ha hb hlen).answersOr with hok | ⟨c, hc, hreject⟩
  · exact h.not_succeeds hok
  · cases h.unique hreject
    simp at hc

theorem answersOr_dot (hs : s.Aligned) (ht : t.Aligned) (ha : DistinctAxes s.rank axes)
    (hb : DistinctAxes t.rank others) :
    (dot s.dims axes s.given t.dims others t.given).AnswersOr
      [.rankMismatch, .dimensionMismatch, .duplicateNames] := by
  by_cases hlen : axes.length = others.length
  · exact (ends_dot_of_length_eq hs ht ha hb hlen).answersOr.imp_right fun ⟨c, hc, hreject⟩ =>
      ⟨c, List.mem_cons_of_mem _ hc, hreject⟩
  · exact Or.inr ⟨_, List.mem_cons_self, rejectedWith_dot_of_length_ne hlen⟩

theorem rank_names_of_dot (hs : s.Aligned) (ht : t.Aligned) (ha : DistinctAxes s.rank axes)
    (hb : DistinctAxes t.rank others) {r : NamedShape}
    (h : (dot s.dims axes s.given t.dims others t.given).result = .ok r) :
    r.rank + 2 * axes.length = s.rank + t.rank ∧ r.names.reduceOption.Nodup := by
  obtain ⟨hmatch, hnames, rfl⟩ := (NamedShape.result_dot_eq_ok hs ht).mp h
  refine ⟨?_, repeatedNames_eq_nil_iff.mp hnames⟩
  have hl := rank_erase_add_length ha
  have hr := rank_erase_add_length hb
  have hlen := hmatch.length_eq
  have happend : (s.contract axes t others).rank = (s.erase axes).rank + (t.erase others).rank :=
    List.length_append
  omega

end Contraction

/-- On axes that a named shape was asked for and that were found, every operation does what it is
for. Removing them succeeds, removing unit axes is only rejected for another dimension, all of them
rearrange the shape, and a contraction is only rejected where the axes of the operands are not
equally many, dimensions differ or a name is left on two axes. -/
theorem resolved_axes_safe {refs : List AxisRef} (hs : s.Aligned)
    (haxes : (resolveAxes s.dims refs s.given).result = .ok axes) :
    (∃ r, (removeAxes s.dims axes s.given).result = .ok r ∧ r.rank + axes.length = s.rank) ∧
    ((∃ r, (removeUnitAxes s.dims axes s.given).result = .ok r ∧
        r.rank + axes.length = s.rank) ∨
      (removeUnitAxes s.dims axes s.given).RejectedWith .squeezeNonUnitDim) ∧
    (axes.length = s.rank →
      ∃ r, (permute s.dims axes s.given).result = .ok r ∧ r.Aligned ∧ r.pairs.Perm s.pairs) ∧
    ∀ (t : NamedShape) (otherRefs : List AxisRef) (others : List ℤ), t.Aligned →
      (resolveAxes t.dims otherRefs t.given).result = .ok others →
      let x := dot s.dims axes s.given t.dims others t.given
      (∀ f, x.result ≠ .error (.fault f)) ∧
      x.AnswersOr [.rankMismatch, .dimensionMismatch, .duplicateNames] ∧
      (x.RejectedWith .rankMismatch ↔ axes.length ≠ others.length) ∧
      ∀ r, x.result = .ok r →
        r.rank + 2 * axes.length = s.rank + t.rank ∧ r.names.reduceOption.Nodup := by
  have ha := distinctAxes_of_resolveAxes hs haxes
  refine ⟨⟨s.erase axes, ?_, rank_erase_add_length ha⟩, ?_, fun hlen => ?_, ?_⟩
  · rw [removeAxes_eq_pure hs, result_pure]
  · refine (removeUnitAxes_eq_pure_or_rejected hs axes).imp_left fun h => ?_
    exact ⟨s.erase axes, by rw [h, result_pure], rank_erase_add_length ha⟩
  · have hwithin : ∀ axis ∈ axes, 0 ≤ axis ∧ axis < s.rank := fun axis haxis =>
      ⟨ha.nonneg axis haxis, ha.lt axis haxis⟩
    exact ⟨s.select axes, by rw [permute_eq_pure hs hwithin hlen, result_pure],
      LabelledShape.aligned_select hs hwithin, LabelledShape.pairs_select_perm hs ha hlen⟩
  · intro t otherRefs others ht hothers
    have hb := distinctAxes_of_resolveAxes ht hothers
    have hends := answersOr_dot hs ht ha hb
    exact ⟨hends.result_ne_fault, hends, rejectedWith_rankMismatch_dot_iff hs ht ha hb,
      fun r => rank_names_of_dot hs ht ha hb⟩

/-- The same two axes, referred to by name and from the end in one operand and from the front in the
other, in another order. Named in this other order they turn the first operand around. -/
theorem resolved_axes_safe_name_and_end :
    let s : NamedShape := ⟨[2, 3], [some "row", none]⟩
    let t : NamedShape := ⟨[3, 5, 2], [none, some "depth", none]⟩
    let turned : NamedShape := ⟨[3, 2], [none, some "row"]⟩
    (resolveAxes s.dims [.name "row", .index (-1)] s.given).result = .ok [0, 1] ∧
      (resolveAxes t.dims [.index 2, .index 0] t.given).result = .ok [2, 0] ∧
      (dot s.dims [0, 1] s.given t.dims [2, 0] t.given).result = .ok ⟨[5], [some "depth"]⟩ ∧
      1 + 2 * 2 = s.rank + t.rank ∧ [some "depth"].reduceOption.Nodup ∧
      (resolveAxes s.dims [.index (-1), .name "row"] s.given).result = .ok [1, 0] ∧
      (permute s.dims [1, 0] s.given).result = .ok turned ∧ turned.pairs.Perm s.pairs := by
  intro s t turned
  have hs : (resolveAxes s.dims [.name "row", .index (-1)] s.given).result = .ok [0, 1] :=
    Outcome.result_eq_ok_of_answer? (by decide +kernel)
  have hturn : (resolveAxes s.dims [.index (-1), .name "row"] s.given).result = .ok [1, 0] :=
    Outcome.result_eq_ok_of_answer? (by decide +kernel)
  have ht : (resolveAxes t.dims [.index 2, .index 0] t.given).result = .ok [2, 0] :=
    Outcome.result_eq_ok_of_answer? (by decide +kernel)
  have hdot : (dot s.dims [0, 1] s.given t.dims [2, 0] t.given).result =
      .ok ⟨[5], [some "depth"]⟩ :=
    Outcome.result_eq_ok_of_answer? (by decide +kernel)
  have hturned : (permute s.dims [1, 0] s.given).result = .ok turned :=
    Outcome.result_eq_ok_of_answer? (by decide +kernel)
  have hsaligned : s.Aligned := rfl
  have htaligned : t.Aligned := rfl
  obtain ⟨-, -, -, hsafe⟩ := resolved_axes_safe hsaligned hs
  obtain ⟨hrank, hnames⟩ := (hsafe t _ _ htaligned ht).2.2.2 _ hdot
  obtain ⟨-, -, hpermute, -⟩ := resolved_axes_safe hsaligned hturn
  obtain ⟨r, hr, -, hperm⟩ := hpermute rfl
  obtain rfl := Except.ok.inj (hr.symm.trans hturned)
  exact ⟨hs, ht, hdot, hrank, hnames, hturn, hturned, hperm⟩

end TensorShape
