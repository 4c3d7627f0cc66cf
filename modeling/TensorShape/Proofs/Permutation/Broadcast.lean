import TensorShape.Proofs.Broadcast.FirstFlaw
import TensorShape.Proofs.Permutation.Composition

/-! # Broadcasting permuted shapes

Two shapes of one rank are aligned axis by axis. A permutation of their axes moves the aligned
pairs, and neither adds nor loses one. So permuted shapes fit exactly if the shapes themselves do,
and then have the permutation of their join. Otherwise they are rejected for the same reason, since
clashing dimensions at any position come before conflicting names at any other.
-/

namespace TensorShape

open Outcome NamedShape

section Aligned

variable {α β : Type} {fill : α} {xs ys : List α} {axes : List ℤ}

theorem align_selectAxes (hlen : xs.length = ys.length)
    (hwithin : ∀ i ∈ axes, 0 ≤ i ∧ i < xs.length) :
    align fill (selectAxes axes xs) (selectAxes axes ys) = selectAxes axes (align fill xs ys) := by
  have hlen' : (selectAxes axes xs).length = (selectAxes axes ys).length :=
    (length_selectAxes hwithin).trans (length_selectAxes (hlen ▸ hwithin)).symm
  rw [align_of_length_eq hlen, align_of_length_eq hlen', selectAxes_zip axes hlen]

theorem map_align_selectAxes (f : α × α → β) (hlen : xs.length = ys.length)
    (hwithin : ∀ i ∈ axes, 0 ≤ i ∧ i < xs.length) :
    (align fill (selectAxes axes xs) (selectAxes axes ys)).map f =
      selectAxes axes ((align fill xs ys).map f) := by
  rw [align_selectAxes hlen hwithin, map_selectAxes]

theorem forall_fromEnd_selectAxes_iff {P : α × α → Prop} (hfill : P (fill, fill))
    (hlen : xs.length = ys.length) (hp : axes.Perm (allAxes xs.length)) :
    (∀ i, P (fromEnd fill (selectAxes axes xs) i, fromEnd fill (selectAxes axes ys) i)) ↔
      ∀ i, P (fromEnd fill xs i, fromEnd fill ys i) := by
  have hsource := sourceAxes_of_perm hp
  have hdistinct := hsource.distinctAxes (hsource.nodup_iff_perm.mpr hp)
  have hpairs : (align fill xs ys).length = xs.length := by
    rw [length_align, ← hlen, Nat.max_self]
  have hperm : (selectAxes axes (align fill xs ys)).Perm (align fill xs ys) :=
    selectAxes_perm (hpairs.symm ▸ hdistinct) (hsource.length_eq.trans hpairs.symm)
  rw [← forall_mem_align hfill, ← forall_mem_align hfill, align_selectAxes hlen hsource.within]
  exact forall_congr' fun pair => imp_congr_left hperm.mem_iff

end Aligned

/-- Why two named shapes have no join, whatever the position: dimensions clash, or none do but names
are in conflict. -/
inductive JoinFlaw (s t : NamedShape) : Code → Prop
  | clash {i : ℕ} : Clashing (fromEnd 1 s.dims i, fromEnd 1 t.dims i) →
    JoinFlaw s t .broadcastIncompatible
  | conflict {i : ℕ} : (∀ j, ¬ Clashing (fromEnd 1 s.dims j, fromEnd 1 t.dims j)) →
    AxisName.Conflicting (fromEnd none s.names i, fromEnd none t.names i) →
    JoinFlaw s t .nameConflict

section Joined

variable {s t : NamedShape} {axes : List ℤ} {c : Code}

theorem JoinFlaw.rejectedWith (h : JoinFlaw s t c) : (join s t).RejectedWith c := by
  cases h with
  | clash hclash => exact (failsAs_join_of_clashing hclash).rejectedWith rfl
  | conflict hdims hconflict =>
    obtain ⟨_, _, _, hfirst⟩ := exists_conflictsFirst ⟨_, hconflict⟩
    exact (hfirst.failsAs_join hdims).rejectedWith rfl

theorem fits_or_joinFlaw (s t : NamedShape) : s.Fits t ∨ ∃ c, JoinFlaw s t c := by
  by_cases hdims : ∀ i, ¬ Clashing (fromEnd 1 s.dims i, fromEnd 1 t.dims i)
  · by_cases hnames : ∀ i, ¬ AxisName.Conflicting (fromEnd none s.names i, fromEnd none t.names i)
    · exact Or.inl ⟨hdims, hnames⟩
    · obtain ⟨i, hconflict⟩ := not_forall_not.mp hnames
      exact Or.inr ⟨_, .conflict hdims hconflict⟩
  · obtain ⟨i, hclash⟩ := not_forall_not.mp hdims
    exact Or.inr ⟨_, .clash hclash⟩

theorem combine_select (hs : s.Aligned) (ht : t.Aligned) (hrank : s.rank = t.rank)
    (hwithin : ∀ i ∈ axes, 0 ≤ i ∧ i < s.rank) :
    combine (s.select axes) (t.select axes) = (s.combine t).select axes := by
  have hlen : s.names.length = t.names.length := hs.trans (hrank.trans ht.symm)
  have hnames : ∀ i ∈ axes, 0 ≤ i ∧ i < s.names.length := hs.symm ▸ hwithin
  exact congrArg₂ LabelledShape.mk (map_align_selectAxes _ hrank hwithin)
    (map_align_selectAxes _ hlen hnames)

theorem not_clashing_select_iff (hrank : s.rank = t.rank) (hp : axes.Perm (allAxes s.rank)) :
    (∀ i, ¬ Clashing (fromEnd 1 (s.select axes).dims i, fromEnd 1 (t.select axes).dims i)) ↔
      ∀ i, ¬ Clashing (fromEnd 1 s.dims i, fromEnd 1 t.dims i) :=
  forall_fromEnd_selectAxes_iff (P := fun pair => ¬ Clashing pair) not_clashing_one hrank hp

variable (hs : s.Aligned) (ht : t.Aligned) (hrank : s.rank = t.rank)
  (hp : axes.Perm (allAxes s.rank))

include hs ht hrank hp

theorem not_conflicting_select_iff :
    (∀ i, ¬ AxisName.Conflicting
        (fromEnd none (s.select axes).names i, fromEnd none (t.select axes).names i)) ↔
      ∀ i, ¬ AxisName.Conflicting (fromEnd none s.names i, fromEnd none t.names i) := by
  have hlen : s.names.length = t.names.length := hs.trans (hrank.trans ht.symm)
  have hperm : axes.Perm (allAxes s.names.length) := hs.symm ▸ hp
  exact forall_fromEnd_selectAxes_iff (P := fun pair => ¬ AxisName.Conflicting pair)
    AxisName.not_conflicting_none hlen hperm

theorem fits_select (h : s.Fits t) : Fits (s.select axes) (t.select axes) :=
  ⟨(not_clashing_select_iff hrank hp).mpr h.dims,
    (not_conflicting_select_iff hs ht hrank hp).mpr h.names⟩

theorem JoinFlaw.select (h : JoinFlaw s t c) : JoinFlaw (s.select axes) (t.select axes) c := by
  cases h with
  | clash hclash =>
    -- The permutation may take the clash to another position, but cannot take it away.
    obtain ⟨j, hj⟩ := not_forall_not.mp fun h =>
      (not_clashing_select_iff hrank hp).mp h _ hclash
    exact .clash hj
  | conflict hdims hconflict =>
    obtain ⟨j, hj⟩ := not_forall_not.mp fun h =>
      (not_conflicting_select_iff hs ht hrank hp).mp h _ hconflict
    exact .conflict ((not_clashing_select_iff hrank hp).mpr hdims) hj

end Joined

def broadcastPermuted (s t : NamedShape) (permutation : List ℤ) : Outcome NamedShape := do
  let left ← permute s.dims permutation s.given
  let right ← permute t.dims permutation t.given
  broadcast left.dims left.given right.dims right.given

/-- It makes no difference whether two shapes of one rank are permuted before they are broadcast
against each other, or the result is afterwards. Either both ways answer the same shape, or the
broadcasts are rejected with the same code. -/
theorem broadcast_commutes_with_permutation {s t : NamedShape} {permutation : List ℤ}
    (hs : s.Aligned) (ht : t.Aligned) (hrank : s.rank = t.rank)
    (hp : permutation.Perm (allAxes s.rank)) :
    let plain := broadcast s.dims s.given t.dims t.given
    let permuted := broadcastPermuted s t permutation
    (∃ joined r, plain = pure joined ∧ permute joined.dims permutation joined.given = pure r ∧
      permuted = pure r) ∨
    ∃ c, (c = .broadcastIncompatible ∨ c = .nameConflict) ∧ plain.RejectedWith c ∧
      permuted.RejectedWith c := by
  intro plain permuted
  have hsource := sourceAxes_of_perm hp
  have hsource' : SourceAxes t.rank permutation := hrank ▸ hsource
  have hplain : plain = join s t := broadcast_eq_join hs.assign_given ht.assign_given
  have hls := LabelledShape.aligned_select hs hsource.within
  have hrs := LabelledShape.aligned_select ht hsource'.within
  have hpermuted : permuted = join (s.select permutation) (t.select permutation) := by
    simp only [permuted, broadcastPermuted]
    rw [hsource.permute_eq_pure hs, pure_bind, hsource'.permute_eq_pure ht, pure_bind,
      broadcast_eq_join hls.assign_given hrs.assign_given]
  rw [hplain, hpermuted]
  rcases fits_or_joinFlaw s t with hfits | ⟨c, hflaw⟩
  · have hjoined := aligned_combine hs ht
    have hsource'' : SourceAxes (s.combine t).rank permutation := by
      rwa [rank_combine, ← hrank, Nat.max_self]
    refine Or.inl ⟨_, _, join_eq_pure hs ht hfits, hsource''.permute_eq_pure hjoined, ?_⟩
    rw [join_eq_pure hls hrs (fits_select hs ht hrank hp hfits),
      combine_select hs ht hrank hsource.within]
  · refine Or.inr ⟨c, ?_, hflaw.rejectedWith, (hflaw.select hs ht hrank hp).rejectedWith⟩
    cases hflaw with
    | clash => exact Or.inl rfl
    | conflict => exact Or.inr rfl

/-- The first two shapes stretch each other. The first and the third one have conflicting names on
the first axis and clashing dimensions on the last one, which the permutation takes to the front. -/
theorem broadcast_commutes_with_permutation_competing :
    let s : NamedShape := ⟨[1, 4, 2], [some "batch", none, none]⟩
    let t : NamedShape := ⟨[3, 1, 2], [none, some "row", none]⟩
    let u : NamedShape := ⟨[1, 4, 5], [some "time", none, none]⟩
    let p : List ℤ := [2, 0, 1]
    s.Aligned ∧ t.Aligned ∧ u.Aligned ∧ s.rank = t.rank ∧ s.rank = u.rank ∧
      p.Perm (allAxes s.rank) ∧
      broadcast s.dims s.given t.dims t.given =
        pure ⟨[3, 4, 2], [some "batch", some "row", none]⟩ ∧
      broadcastPermuted s t p = pure ⟨[2, 3, 4], [none, some "batch", some "row"]⟩ ∧
      (broadcast s.dims s.given u.dims u.given).RejectedWith .broadcastIncompatible ∧
      (broadcastPermuted s u p).RejectedWith .broadcastIncompatible := by
  intro s t u p
  have hs : s.Aligned := rfl
  have ht : t.Aligned := rfl
  have hu : u.Aligned := rfl
  have hp : p.Perm (allAxes s.rank) := by decide
  have hok : (broadcast s.dims s.given t.dims t.given).result =
      .ok ⟨[3, 4, 2], [some "batch", some "row", none]⟩ :=
    Outcome.result_eq_ok_of_answer? (by decide +kernel)
  have hok' : (broadcastPermuted s t p).result =
      .ok ⟨[2, 3, 4], [none, some "batch", some "row"]⟩ :=
    Outcome.result_eq_ok_of_answer? (by decide +kernel)
  have hclash : JoinFlaw s u .broadcastIncompatible :=
    .clash (show Clashing (fromEnd 1 s.dims 0, fromEnd 1 u.dims 0) by decide)
  have hrejected := hclash.rejectedWith
  rw [← broadcast_eq_join hs.assign_given hu.assign_given] at hrejected
  obtain ⟨joined, r, hplain, -, hpermuted⟩ | ⟨c, -, hplain, -⟩ :=
    broadcast_commutes_with_permutation hs ht rfl hp
  · obtain rfl := result_pure_eq_ok.mp (hplain ▸ hok)
    obtain rfl := result_pure_eq_ok.mp (hpermuted ▸ hok')
    obtain ⟨joined, r, hplain', -, -⟩ | ⟨c, -, hplain', hpermuted'⟩ :=
      broadcast_commutes_with_permutation hs hu rfl hp
    · exact absurd ⟨joined, hplain' ▸ result_pure joined⟩ hrejected.not_succeeds
    · obtain rfl := hplain'.unique hrejected
      exact ⟨hs, ht, hu, rfl, rfl, hp, hplain, hpermuted, hrejected, hpermuted'⟩
  · exact absurd ⟨_, hok⟩ hplain.not_succeeds

end TensorShape
