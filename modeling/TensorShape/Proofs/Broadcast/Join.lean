import Mathlib.Data.Int.Order.Basic
import TensorShape.Proofs.Alignment
import TensorShape.Proofs.Axis.Naming

/-! # The join of two shapes, position by position

Two named shapes fit if neither dimensions nor names clash at any position counted from the end.
Exactly then they have a join, which has the larger dimension and the name of either at each
position. Broadcasting is joining: the shortcut for equal shapes does not change the answer.
-/

namespace TensorShape

theorem not_clashing_one : ¬ Clashing (1, 1) := fun h => h.1 rfl

theorem not_clashing_self (d : ℤ) : ¬ Clashing (d, d) := fun h => h.2.2 rfl

namespace NamedShape

/-- Two named shapes have neither clashing dimensions nor conflicting names at any position. -/
structure Fits (s t : NamedShape) : Prop where
  dims : ∀ i, ¬ Clashing (fromEnd 1 s.dims i, fromEnd 1 t.dims i)
  names : ∀ i, ¬ AxisName.Conflicting (fromEnd none s.names i, fromEnd none t.names i)

/-- The larger dimension and the first name that is there, at each position. -/
def combine (s t : NamedShape) : NamedShape where
  dims := (align 1 s.dims t.dims).map fun pair => max pair.1 pair.2
  names := (align none s.names t.names).map fun pair => pair.1.or pair.2

variable {s t r : NamedShape} {i : ℕ}

@[simp] theorem rank_combine : (s.combine t).rank = max s.rank t.rank := by
  simp [combine, LabelledShape.rank]

theorem fromEnd_combine_dims :
    fromEnd 1 (s.combine t).dims i = max (fromEnd 1 s.dims i) (fromEnd 1 t.dims i) :=
  fromEnd_map_align fun pair : ℤ × ℤ => max pair.1 pair.2

theorem fromEnd_combine_names :
    fromEnd none (s.combine t).names i =
      (fromEnd none s.names i).or (fromEnd none t.names i) :=
  fromEnd_map_align fun pair : AxisName × AxisName => pair.1.or pair.2

theorem aligned_combine (hs : s.Aligned) (ht : t.Aligned) : (s.combine t).Aligned := by
  unfold LabelledShape.Aligned at *
  simp [combine, hs, ht]

theorem eq_of_fromEnd (hs : s.Aligned) (ht : t.Aligned) (hrank : s.rank = t.rank)
    (hdims : ∀ i, fromEnd 1 s.dims i = fromEnd 1 t.dims i)
    (hnames : ∀ i, fromEnd none s.names i = fromEnd none t.names i) : s = t := by
  have hd : s.dims = t.dims := eq_of_fromEnd_eq 1 hrank hdims
  have hn : s.names = t.names :=
    eq_of_fromEnd_eq none (hs.trans (hrank.trans ht.symm)) hnames
  cases s; cases t
  exact congrArg₂ _ hd hn

theorem fits_self (s : NamedShape) : s.Fits s :=
  ⟨fun _ => not_clashing_self _, fun _ h => h.2.2 rfl⟩

theorem combine_self (hs : s.Aligned) : s.combine s = s := by
  apply eq_of_fromEnd (aligned_combine hs hs) hs
  · rw [rank_combine, Nat.max_self]
  · intro i
    rw [fromEnd_combine_dims, max_self]
  · intro i
    rw [fromEnd_combine_names, Option.or_self]

end NamedShape

open NamedShape

variable {s t r : NamedShape}

theorem any_clashing_iff :
    (align 1 s.dims t.dims).any (decide <| Clashing ·) = true ↔
      ¬ ∀ i, ¬ Clashing (fromEnd 1 s.dims i, fromEnd 1 t.dims i) := by
  rw [← forall_mem_align (P := fun pair => ¬ Clashing pair) not_clashing_one]
  simp

theorem join_of_not_clashing
    (h : ∀ i, ¬ Clashing (fromEnd 1 s.dims i, fromEnd 1 t.dims i)) :
    join s t = (align none s.names t.names).mapM (fun names => AxisName.merge names.1 names.2) >>=
      LabelledShape.build (s.combine t).dims := by
  have hany : ¬ (align 1 s.dims t.dims).any (decide <| Clashing ·) = true := by
    rwa [any_clashing_iff, not_not]
  rw [join, if_neg hany]
  rfl

theorem join_eq_pure (hs : s.Aligned) (ht : t.Aligned) (h : s.Fits t) :
    join s t = pure (s.combine t) := by
  have hn : ∀ pair ∈ align none s.names t.names,
      AxisName.merge pair.1 pair.2 = pure (pair.1.or pair.2) := by
    have hn' := (forall_mem_align (P := fun pair => ¬ AxisName.Conflicting pair)
      AxisName.not_conflicting_none).mpr h.names
    exact fun pair hp => AxisName.merge_eq_pure (hn' pair hp)
  rw [join_of_not_clashing h.dims, Outcome.mapM_eq_pure hn, pure_bind]
  exact LabelledShape.build_eq_pure (aligned_combine hs ht)

theorem join_self (hs : s.Aligned) : join s s = pure s := by
  rw [join_eq_pure hs hs (fits_self s), combine_self hs]

theorem fits_of_join (h : (join s t).result = .ok r) : s.Fits t := by
  simp only [join] at h
  split at h
  · exact absurd h (result_reject_ne_ok _ _)
  · rename_i hd
    rw [any_clashing_iff, not_not] at hd
    obtain ⟨names, hm, -⟩ := Outcome.result_bind_eq_ok.mp h
    refine ⟨hd, (forall_mem_align (P := fun pair => ¬ AxisName.Conflicting pair)
      AxisName.not_conflicting_none).mp ?_⟩
    intro pair hp
    obtain ⟨n, hn⟩ := Outcome.exists_result_of_mapM hm pair hp
    exact AxisName.not_conflicting_of_merge hn

/-- Two shapes are joined exactly if they fit. -/
theorem result_join_eq_ok (hs : s.Aligned) (ht : t.Aligned) :
    (join s t).result = .ok r ↔ s.Fits t ∧ s.combine t = r := by
  constructor
  · intro h
    have hf := fits_of_join h
    rw [join_eq_pure hs ht hf] at h
    exact ⟨hf, Outcome.result_pure_eq_ok.mp h⟩
  · rintro ⟨hf, rfl⟩
    rw [join_eq_pure hs ht hf, Outcome.result_pure]

theorem broadcast_eq_join {lhs rhs : Shape} {lhsNames rhsNames : GivenNames}
    {left right : List AxisName} (hl : lhsNames.assign lhs = pure left)
    (hr : rhsNames.assign rhs = pure right) :
    broadcast lhs lhsNames rhs rhsNames = join ⟨lhs, left⟩ ⟨rhs, right⟩ := by
  rw [broadcast, hl, pure_bind, hr, pure_bind]
  split
  · rename_i h
    obtain ⟨rfl, rfl⟩ := h
    exact (join_self (GivenNames.length_of_assign (hl ▸ Outcome.result_pure left))).symm
  · rfl

end TensorShape
