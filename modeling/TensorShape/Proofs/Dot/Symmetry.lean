import TensorShape.Proofs.Dot.FirstFlaw

/-! # Exchanged operands and reordered axes

No check of a contraction favours one of the operands, so where they change places the same check
fails, if any does, though it may be the other operand that is complained of. What is left of the
operands changes places in the answer. The order in which pairs of axes are listed decides which of
them is complained of first, but not whether any is.
-/

namespace TensorShape

open Outcome

variable {lhs rhs : Shape} {l r : Operand} {a b : List ℤ} {i j : ℤ} {k : ℕ} {c : Complaint}

section Exchanged

theorem Contractible.symm (h : Contractible lhs rhs i j) : Contractible rhs lhs j i :=
  ⟨h.1.symm, h.2.symm⟩

theorem getElem?_zip_swap_iff : (b.zip a)[k]? = some (j, i) ↔ (a.zip b)[k]? = some (i, j) := by
  rw [List.getElem?_zip_eq_some, List.getElem?_zip_eq_some]
  exact and_comm

theorem AllContractible.symm (h : AllContractible lhs rhs a b) : AllContractible rhs lhs b a := by
  refine ⟨h.length_eq.symm, ?_⟩
  rintro ⟨j, i⟩ hpair
  obtain ⟨k, hk⟩ := List.mem_iff_getElem?.mp hpair
  exact (h.contractible _ (List.mem_of_getElem? (getElem?_zip_swap_iff.mp hk))).symm

theorem ComesTo.symm (h : ComesTo lhs rhs a b k i j) : ComesTo rhs lhs b a k j i := by
  refine ⟨h.length_eq.symm, getElem?_zip_swap_iff.mpr h.pair, ?_⟩
  rintro m hm ⟨j', i'⟩ hearlier
  exact (h.before m hm _ (getElem?_zip_swap_iff.mp hearlier)).symm

theorem nodup_reduceOption_append_comm {m n : List AxisName} :
    (m ++ n).reduceOption.Nodup ↔ (n ++ m).reduceOption.Nodup := by
  rw [List.reduceOption_append, List.reduceOption_append, List.nodup_append_comm]

/-- Where a contraction has a first flaw, that of the exchanged operands is of the same sort. -/
theorem DotFlaw.exchange (h : DotFlaw l a r b c) : ∃ c', DotFlaw r b l a c' ∧ c'.sort = c.sort := by
  cases h with
  | count hlen => exact ⟨_, .count (Ne.symm hlen), rfl⟩
  | @lhsOutside k i j hat hl =>
    -- Now the axis of the other operand is read first, and may be outside as well.
    by_cases hr : Reaches r.dims j
    · exact ⟨_, .rhsOutside hat.symm hr hl, rfl⟩
    · refine ⟨_, .lhsOutside hat.symm hr, congrArg Sum.inl ?_⟩
      rw [Fault.category_outside, Fault.category_outside]
  | rhsOutside hat hl hr => exact ⟨_, .lhsOutside hat.symm hr, rfl⟩
  | clash hat hl hr hne => exact ⟨_, .clash hat.symm hr hl hne.symm, rfl⟩
  | lhsNames hall hl =>
    rcases r.named_or_misnamed with hr | ⟨c', hr⟩
    · exact ⟨_, .rhsNames hall.symm hr hl, rfl⟩
    · exact ⟨c', .lhsNames hall.symm hr, hr.sort_eq.trans hl.sort_eq.symm⟩
  | rhsNames hall hl hr => exact ⟨_, .lhsNames hall.symm hr, rfl⟩
  | repeated hall hl hr hnames =>
    exact ⟨_, .repeated hall.symm hr hl (mt nodup_reduceOption_append_comm.mp hnames), rfl⟩

theorem result_dot_exchange
    (h : (dot l.dims a l.given r.dims b r.given).Succeeds) :
    (dot l.dims a l.given r.dims b r.given).result = .ok ((l.rest a).append (r.rest b)) ∧
      (dot r.dims b r.given l.dims a l.given).result = .ok ((r.rest b).append (l.rest a)) := by
  obtain ⟨s, hs⟩ := h
  obtain ⟨hall, hl, hr, hnames, rfl⟩ := result_dot_given_eq_ok.mp hs
  exact ⟨hs, result_dot_given_eq_ok.mpr
    ⟨hall.symm, hr, hl, nodup_reduceOption_append_comm.mp hnames, rfl⟩⟩

end Exchanged

section Reordered

variable {pairs pairs' : List (ℤ × ℤ)}

theorem allContractible_pairs_iff :
    AllContractible lhs rhs (pairs.map Prod.fst) (pairs.map Prod.snd) ↔
      ∀ pair ∈ pairs, Contractible lhs rhs pair.1 pair.2 := by
  have hzip : (pairs.map Prod.fst).zip (pairs.map Prod.snd) = pairs :=
    (List.zip_of_prod rfl rfl).symm
  constructor
  · intro h pair hpair
    exact h.contractible pair (hzip.symm ▸ hpair)
  · intro h
    exact ⟨by rw [List.length_map, List.length_map], fun pair hpair => h pair (hzip ▸ hpair)⟩

theorem Operand.rest_perm (o : Operand) (h : a.Perm b) : o.rest a = o.rest b := by
  have hkept : o.kept a = o.kept b := List.filter_congr fun axis _ => by simp only [h.mem_iff]
  rw [rest, rest, hkept]

theorem result_dot_of_perm (h : pairs.Perm pairs') {s : NamedShape}
    (hs : (dot l.dims (pairs.map Prod.fst) l.given r.dims (pairs.map Prod.snd) r.given).result =
      .ok s) :
    (dot l.dims (pairs'.map Prod.fst) l.given r.dims (pairs'.map Prod.snd) r.given).result =
      .ok s := by
  rw [result_dot_given_eq_ok, allContractible_pairs_iff] at hs ⊢
  rw [← l.rest_perm (h.map Prod.fst), ← r.rest_perm (h.map Prod.snd)]
  obtain ⟨hall, hrest⟩ := hs
  exact ⟨fun pair hpair => hall pair (h.mem_iff.mpr hpair), hrest⟩

end Reordered

/-- Contracted in either order, two operands leave the same two parts, which change places in the
answer, or they fail alike. Pairs of axes that are listed in another order give the same answer, if
any. -/
theorem dot_exchange_and_reorder (l r : Operand) :
    (∀ a b, let x := dot l.dims a l.given r.dims b r.given
      let y := dot r.dims b r.given l.dims a l.given
      (x.result = .ok ((l.rest a).append (r.rest b)) ∧
        y.result = .ok ((r.rest b).append (l.rest a))) ∨ x.FailAlike y) ∧
    ∀ pairs pairs' : List (ℤ × ℤ), pairs.Perm pairs' → ∀ s,
      (dot l.dims (pairs.map Prod.fst) l.given r.dims (pairs.map Prod.snd) r.given).result =
          .ok s ↔
        (dot l.dims (pairs'.map Prod.fst) l.given r.dims (pairs'.map Prod.snd) r.given).result =
          .ok s := by
  refine ⟨fun a b => ?_, fun pairs pairs' h s => ?_⟩
  · refine (succeeds_or_dotFlaw l a r b).imp result_dot_exchange ?_
    rintro ⟨c, hc⟩
    obtain ⟨c', hc', hsort⟩ := hc.exchange
    exact hc.failsAs.failAlike hc'.failsAs hsort
  · exact ⟨result_dot_of_perm h, result_dot_of_perm h.symm⟩

/-- The second of two pairs is listed first, and one of the axes is counted from the end. -/
theorem dot_exchange_and_reorder_from_end :
    let l : Operand := ⟨[2, 3, 5], some [none, some "row", none]⟩
    let r : Operand := ⟨[5, 7, 3], none⟩
    [((-1 : ℤ), (0 : ℤ)), (1, 2)].Perm [(1, 2), (-1, 0)] ∧
      (dot l.dims [-1, 1] l.given r.dims [0, 2] r.given).result =
        .ok ⟨[2, 5, 7], [none, none, none]⟩ ∧
      (dot l.dims [1, -1] l.given r.dims [2, 0] r.given).result =
        .ok ⟨[2, 5, 7], [none, none, none]⟩ := by
  intro l r
  have hperm : [((-1 : ℤ), (0 : ℤ)), (1, 2)].Perm [(1, 2), (-1, 0)] := .swap _ _ _
  have h : (dot l.dims [-1, 1] l.given r.dims [0, 2] r.given).result =
      .ok ⟨[2, 5, 7], [none, none, none]⟩ :=
    Outcome.result_eq_ok_of_answer? (by decide +kernel)
  exact ⟨hperm, h, ((dot_exchange_and_reorder l r).2 _ _ hperm _).mp h⟩

end TensorShape
