import TensorShape.Proofs.Broadcast.Join
import TensorShape.Proofs.Broadcast.Mapping

/-! # Broadcast targets

A shape is broadcast to a target along the last axes of the target. The common shape of two shapes
is broadcast to every target that both are, but it is a target of both itself only if no dimension
below one meets a one: there the larger dimension is one.
-/

namespace TensorShape

variable {source target : Shape} {i : ℕ}

/-- The mapping of a shape to the last axes of a target exists and is accepted. -/
def BroadcastsTo (source target : Shape) : Prop :=
  ∃ axes, (trailingAxes source target).result = .ok axes ∧
    (checkMapping source target axes).result = .ok ()

theorem pairwise_lt_trailing (source target : Shape) :
    ((List.range source.length).map fun i =>
      ((target.length - source.length + i : ℕ) : ℤ)).Pairwise (· < ·) := by
  rw [List.pairwise_map]
  exact List.pairwise_lt_range.imp fun h => by omega

theorem lands_trailing_iff (hle : source.length ≤ target.length) (hi : i < source.length) :
    Lands target (((target.length - source.length + i : ℕ) : ℤ), source[i]) ↔
      fromEnd 1 source (source.length - 1 - i) = 1 ∨
        fromEnd 1 target (source.length - 1 - i) = fromEnd 1 source (source.length - 1 - i) := by
  have ht : target.length - source.length + i < target.length := by omega
  have hs : fromEnd 1 source (source.length - 1 - i) = source[i] := by
    rw [fromEnd_eq_getElem (by omega)]
    congr 1
    omega
  have hfrom : fromEnd 1 target (source.length - 1 - i) =
      target[target.length - source.length + i] := by
    rw [fromEnd_eq_getElem (by omega)]
    congr 1
    omega
  have hentry : entryAt? target ((target.length - source.length + i : ℕ) : ℤ) =
      some target[target.length - source.length + i] := List.getElem?_eq_getElem ht
  rw [hs, hfrom, Lands, hentry, Option.some.injEq]
  simp only [and_iff_right_iff_imp]
  omega

/-- One shape is broadcast to another exactly if its rank is not larger and each of its dimensions
is one or that of the target at the same position. -/
theorem broadcastsTo_iff :
    BroadcastsTo source target ↔ source.length ≤ target.length ∧
      ∀ i, fromEnd 1 source i = 1 ∨ fromEnd 1 target i = fromEnd 1 source i := by
  unfold BroadcastsTo trailingAxes
  split
  · rename_i h
    simp only [result_reject_ne_ok, false_and, exists_false, Nat.not_le.mpr h]
  · rename_i h
    have hle := Nat.le_of_not_lt h
    simp only [Outcome.result_pure_eq_ok, exists_eq_left', result_checkMapping_eq_ok, hle,
      true_and, List.length_map, List.length_range]
    rw [and_iff_left (pairwise_follows_of_lt (by simp) (pairwise_lt_trailing source target))]
    constructor
    · intro hlands i
      rcases Nat.lt_or_ge i source.length with hi | hi
      · have hm := hlands _ (List.getElem_mem (n := source.length - 1 - i) (by simp; omega))
        simp only [List.getElem_zip, List.getElem_map, List.getElem_range] at hm
        have hfit := (lands_trailing_iff hle (by omega)).mp hm
        rwa [show source.length - 1 - (source.length - 1 - i) = i by omega] at hfit
      · exact Or.inl (fromEnd_of_length_le hi)
    · intro hfit current hm
      obtain ⟨j, hj, rfl⟩ := List.mem_iff_getElem.mp hm
      simp only [List.getElem_zip, List.getElem_map, List.getElem_range]
      exact (lands_trailing_iff hle _).mpr (hfit _)

def unnamed (dims : Shape) : NamedShape := ⟨dims, List.replicate dims.length none⟩

theorem aligned_unnamed (dims : Shape) : (unnamed dims).Aligned := List.length_replicate

theorem fits_unnamed_iff {lhs rhs : Shape} :
    (unnamed lhs).Fits (unnamed rhs) ↔
      ∀ i, ¬ Clashing (fromEnd 1 lhs i, fromEnd 1 rhs i) := by
  refine ⟨fun h => h.dims, fun h => ⟨h, fun i => ?_⟩⟩
  simp only [unnamed, fromEnd_replicate]
  exact AxisName.not_conflicting_none

theorem result_broadcast_unnamed_eq_ok {lhs rhs : Shape} {r : NamedShape} :
    (broadcast lhs none rhs none).result = .ok r ↔
      (∀ i, ¬ Clashing (fromEnd 1 lhs i, fromEnd 1 rhs i)) ∧
        (unnamed lhs).combine (unnamed rhs) = r := by
  rw [broadcast_eq_join (GivenNames.assign_none lhs) (GivenNames.assign_none rhs)]
  exact (result_join_eq_ok (aligned_unnamed lhs) (aligned_unnamed rhs)).trans
    (and_congr_left' fits_unnamed_iff)

theorem length_combine_unnamed (lhs rhs : Shape) :
    ((unnamed lhs).combine (unnamed rhs)).dims.length = max lhs.length rhs.length :=
  NamedShape.rank_combine

theorem not_clashing_of_broadcastsTo {lhs rhs : Shape} (hl : BroadcastsTo lhs target)
    (hr : BroadcastsTo rhs target) : ¬ Clashing (fromEnd 1 lhs i, fromEnd 1 rhs i) := by
  have hli := (broadcastsTo_iff.mp hl).2 i
  have hri := (broadcastsTo_iff.mp hr).2 i
  unfold Clashing
  omega

/-- A target of two shapes is a target of their common shape. -/
theorem combine_broadcastsTo {lhs rhs : Shape} (hl : BroadcastsTo lhs target)
    (hr : BroadcastsTo rhs target) :
    BroadcastsTo ((unnamed lhs).combine (unnamed rhs)).dims target := by
  obtain ⟨hlrank, hldims⟩ := broadcastsTo_iff.mp hl
  obtain ⟨hrrank, hrdims⟩ := broadcastsTo_iff.mp hr
  rw [broadcastsTo_iff, length_combine_unnamed]
  refine ⟨Nat.max_le.mpr ⟨hlrank, hrrank⟩, fun i => ?_⟩
  have hli := hldims i
  have hri := hrdims i
  rw [NamedShape.fromEnd_combine_dims]
  simp only [unnamed]
  omega

/-- The larger of two dimensions that do not clash is a target of both, unless a dimension below
one meets a one. -/
theorem targets_of_max_iff {a b : ℤ} (h : ¬ Clashing (a, b)) :
    (a = 1 ∨ max a b = a) ∧ (b = 1 ∨ max a b = b) ↔ ¬ (a = 1 ∧ b < 1) ∧ ¬ (b = 1 ∧ a < 1) := by
  unfold Clashing at h
  omega

/-- Two shapes with a common target have a common shape, which is broadcast to each of their common
targets. A common shape is itself a target of both exactly if no dimension below one meets a one at
any position counted from the end. -/
theorem broadcast_least_target (lhs rhs : Shape) :
    (∀ target, BroadcastsTo lhs target → BroadcastsTo rhs target →
      ∃ r, broadcast lhs none rhs none = pure r ∧
        ∀ target', BroadcastsTo lhs target' → BroadcastsTo rhs target' →
          BroadcastsTo r.dims target') ∧
    ∀ r, (broadcast lhs none rhs none).result = .ok r →
      (BroadcastsTo lhs r.dims ∧ BroadcastsTo rhs r.dims ↔
        ∀ i, ¬ (fromEnd 1 lhs i = 1 ∧ fromEnd 1 rhs i < 1) ∧
          ¬ (fromEnd 1 rhs i = 1 ∧ fromEnd 1 lhs i < 1)) := by
  constructor
  · intro target hl hr
    have hfit := fits_unnamed_iff.mpr fun i => not_clashing_of_broadcastsTo (i := i) hl hr
    refine ⟨(unnamed lhs).combine (unnamed rhs), ?_, fun _ => combine_broadcastsTo⟩
    rw [broadcast_eq_join (GivenNames.assign_none lhs) (GivenNames.assign_none rhs)]
    exact join_eq_pure (aligned_unnamed lhs) (aligned_unnamed rhs) hfit
  · intro r h
    obtain ⟨hfit, rfl⟩ := result_broadcast_unnamed_eq_ok.mp h
    simp only [broadcastsTo_iff, length_combine_unnamed, Nat.le_max_left, Nat.le_max_right,
      true_and, NamedShape.fromEnd_combine_dims, ← forall_and]
    exact forall_congr' fun i => targets_of_max_iff (hfit i)

/-- A target of two shapes of ranks three and two; where a zero meets a one their common shape has
a one, and the first shape is not broadcast to it. -/
theorem broadcast_least_target_zero_meets_one :
    BroadcastsTo [2, 1, 0] [2, 3, 0] ∧ BroadcastsTo [3, 1] [2, 3, 0] ∧
      (∃ r, broadcast [2, 1, 0] none [3, 1] none = pure r ∧ BroadcastsTo r.dims [2, 3, 0]) ∧
      (broadcast [2, 1, 0] none [3, 1] none).result = .ok (unnamed [2, 3, 1]) ∧
      ¬ (BroadcastsTo [2, 1, 0] [2, 3, 1] ∧ BroadcastsTo [3, 1] [2, 3, 1]) := by
  have hl : BroadcastsTo [2, 1, 0] [2, 3, 0] :=
    ⟨[0, 1, 2], Outcome.result_eq_ok_of_answer? (by decide +kernel),
      Outcome.result_eq_ok_of_answer? (by decide +kernel)⟩
  have hr : BroadcastsTo [3, 1] [2, 3, 0] :=
    ⟨[1, 2], Outcome.result_eq_ok_of_answer? (by decide +kernel),
      Outcome.result_eq_ok_of_answer? (by decide +kernel)⟩
  have h : (broadcast [2, 1, 0] none [3, 1] none).result = .ok (unnamed [2, 3, 1]) :=
    Outcome.result_eq_ok_of_answer? (by decide +kernel)
  obtain ⟨r, heq, hleast⟩ := (broadcast_least_target [2, 1, 0] [3, 1]).1 _ hl hr
  refine ⟨hl, hr, ⟨r, heq, hleast _ hl hr⟩, h, fun hboth => ?_⟩
  exact (((broadcast_least_target [2, 1, 0] [3, 1]).2 _ h).mp hboth 0).2 (by decide)

end TensorShape
