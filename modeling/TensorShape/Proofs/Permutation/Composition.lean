import TensorShape.Proofs.Axis.Composition
import TensorShape.Proofs.ResolvedAxes

/-! # Permutations one after the other

A permutation accepts any list of source axes, one for each axis of the shape, even if one of them
comes twice. Two permutations in sequence are one, along the source axes that the first one lists at
those of the second. So a permutation can be undone for every shape exactly if no axis comes twice,
and then it rearranges the axes. Reversing the axes undoes itself.
-/

namespace TensorShape

open Outcome

variable {s : NamedShape} {rank : ℕ} {axes more : List ℤ}

namespace LabelledShape

variable {ν : Type} {s : LabelledShape ν}

theorem select_select (hs : s.Aligned) (h : ∀ i ∈ axes, 0 ≤ i ∧ i < s.rank) (more : List ℤ) :
    (s.select axes).select more = s.select (selectAxes more axes) := by
  have hnames : ∀ i ∈ axes, 0 ≤ i ∧ i < s.names.length := hs.symm ▸ h
  simp only [select, selectAxes_selectAxes h, selectAxes_selectAxes hnames]

theorem select_allAxes (hs : s.Aligned) : s.select (allAxes s.rank) = s := by
  have hnames := selectAxes_allAxes s.names
  rw [hs] at hnames
  exact congrArg₂ LabelledShape.mk (selectAxes_allAxes s.dims) hnames

theorem rank_select (h : SourceAxes s.rank axes) : (s.select axes).rank = s.rank :=
  (length_selectAxes h.within).trans h.length_eq

end LabelledShape

def permuteTwice (s : NamedShape) (first second : List ℤ) : Outcome NamedShape := do
  let t ← permute s.dims first s.given
  permute t.dims second t.given

theorem sourceAxes_of_permute {dims : Shape} {names : GivenNames} {r : NamedShape}
    (h : (permute dims axes names).result = .ok r) : SourceAxes dims.length axes where
  length_eq := length_of_permute h
  within := (eq_select_of_permute h).2.1

theorem SourceAxes.permute_eq_pure (h : SourceAxes s.rank axes) (hs : s.Aligned) :
    permute s.dims axes s.given = pure (s.select axes) :=
  TensorShape.permute_eq_pure hs h.within h.length_eq

/-- A permutation accepts source axes for all axes of the shape, and nothing else. -/
theorem succeeds_permute_iff (hs : s.Aligned) :
    (permute s.dims axes s.given).Succeeds ↔ SourceAxes s.rank axes := by
  constructor
  · rintro ⟨r, hr⟩
    exact sourceAxes_of_permute hr
  · intro h
    rw [h.permute_eq_pure hs]
    exact succeeds_pure _

theorem permuteTwice_eq_pure (hs : s.Aligned) (hp : SourceAxes s.rank axes)
    (hq : SourceAxes s.rank more) :
    permuteTwice s axes more = pure (s.select (selectAxes more axes)) := by
  have hq' : SourceAxes (s.select axes).rank more := (LabelledShape.rank_select hp).symm ▸ hq
  have haligned := LabelledShape.aligned_select hs hp.within
  rw [permuteTwice, hp.permute_eq_pure hs, pure_bind, hq'.permute_eq_pure haligned,
    LabelledShape.select_select hs hp.within]

/-- A shape from which every permutation can be read: the dimension of an axis is its index. -/
def numberedShape (rank : ℕ) : NamedShape := ⟨allAxes rank, List.replicate rank none⟩

theorem aligned_numberedShape (rank : ℕ) : (numberedShape rank).Aligned := by
  simp [numberedShape, LabelledShape.Aligned, length_allAxes]

theorem selectAxes_eq_of_permuteTwice (hp : SourceAxes rank axes)
    (h : permuteTwice (numberedShape rank) axes more = pure (numberedShape rank)) :
    selectAxes more axes = allAxes rank := by
  have hrank : (numberedShape rank).rank = rank := length_allAxes rank
  have hp' : SourceAxes (numberedShape rank).rank axes := by rwa [hrank]
  rw [permuteTwice, hp'.permute_eq_pure (aligned_numberedShape rank), pure_bind] at h
  obtain ⟨-, -, hselect⟩ := eq_select_of_permute (h ▸ result_pure (numberedShape rank))
  have hdims : selectAxes more (selectAxes axes (allAxes rank)) = allAxes rank :=
    congrArg LabelledShape.dims hselect
  rwa [selectAxes_allAxes_eq_self hp.within] at hdims

/-- A permutation can be undone, by one and the same permutation for all shapes, exactly if it lists
no axis twice. -/
theorem exists_permuteTwice_eq_pure_iff (hp : SourceAxes rank axes) :
    (∃ back, ∀ s : NamedShape, s.Aligned → s.rank = rank → permuteTwice s axes back = pure s) ↔
      axes.Nodup := by
  constructor
  · rintro ⟨back, hback⟩
    have hnumbered := hback _ (aligned_numberedShape rank) (length_allAxes rank)
    exact hp.exists_selectAxes_eq_iff.mp ⟨back, selectAxes_eq_of_permuteTwice hp hnumbered⟩
  · intro hnodup
    have hperm := hp.nodup_iff_perm.mp hnodup
    refine ⟨inverseAxes axes, ?_⟩
    rintro s hs rfl
    rw [permuteTwice_eq_pure hs hp (sourceAxes_inverseAxes hperm), selectAxes_inverseAxes hperm,
      LabelledShape.select_allAxes hs]

theorem reversedAxes_eq (dims : Shape) : reversedAxes dims = (allAxes dims.length).reverse :=
  List.map_reverse

theorem permute_reversedAxes_twice (hs : s.Aligned) :
    (permute s.dims (reversedAxes s.dims) s.given >>= fun t =>
      permute t.dims (reversedAxes t.dims) t.given) = pure s := by
  have hsource : SourceAxes s.rank (reversedAxes s.dims) := by
    rw [reversedAxes_eq]
    exact sourceAxes_of_perm (List.reverse_perm _)
  have hsame : reversedAxes (s.select (reversedAxes s.dims)).dims = reversedAxes s.dims := by
    have hlen : (s.select (reversedAxes s.dims)).dims.length = s.dims.length :=
      LabelledShape.rank_select hsource
    rw [reversedAxes_eq (s.select _).dims, hlen, ← reversedAxes_eq]
  have hself : selectAxes (reversedAxes s.dims) (reversedAxes s.dims) = allAxes s.rank := by
    have hreverse := selectAxes_reverse_allAxes (reversedAxes s.dims)
    rw [hsource.length_eq] at hreverse
    rw [reversedAxes_eq] at hreverse ⊢
    exact hreverse.trans (List.reverse_reverse _)
  have htwice := permuteTwice_eq_pure hs hsource hsource
  rw [permuteTwice, hsource.permute_eq_pure hs, pure_bind, hself,
    LabelledShape.select_allAxes hs] at htwice
  rw [hsource.permute_eq_pure hs, pure_bind, hsame, htwice]

/-- Permutations of a rank accept the lists of as many axes. Two in sequence are one, along the
axes that the first one lists at those of the second. One can be undone for all shapes exactly if it
lists no axis twice; then it rearranges the axes with their names. Reversing the axes twice leaves
them as they were. -/
theorem permutations_compose_and_invert (rank : ℕ) :
    (∀ s : NamedShape, s.Aligned → s.rank = rank → ∀ p,
      (permute s.dims p s.given).Succeeds ↔ SourceAxes rank p) ∧
    (∀ s : NamedShape, s.Aligned → s.rank = rank → ∀ p q, SourceAxes rank p → SourceAxes rank q →
      ∃ r, permuteTwice s p q = pure r ∧ permute s.dims (selectAxes q p) s.given = pure r) ∧
    (∀ p, SourceAxes rank p →
      ((∃ q, ∀ s : NamedShape, s.Aligned → s.rank = rank → permuteTwice s p q = pure s) ↔
        p.Nodup)) ∧
    (∀ p, SourceAxes rank p → p.Nodup → ∀ s : NamedShape, s.Aligned → s.rank = rank →
      ∃ r, permute s.dims p s.given = pure r ∧ r.pairs.Perm s.pairs) ∧
    ∀ s : NamedShape, s.Aligned → s.rank = rank →
      (permute s.dims (reversedAxes s.dims) s.given >>= fun r =>
        permute r.dims (reversedAxes r.dims) r.given) = pure s := by
  refine ⟨?_, ?_, fun p => exists_permuteTwice_eq_pure_iff, ?_, ?_⟩
  · rintro s hs rfl p
    exact succeeds_permute_iff hs
  · rintro s hs rfl p q hp hq
    exact ⟨_, permuteTwice_eq_pure hs hp hq, (hp.select hq).permute_eq_pure hs⟩
  · rintro p hp hnodup s hs rfl
    exact ⟨_, hp.permute_eq_pure hs,
      LabelledShape.pairs_select_perm hs (hp.distinctAxes hnodup) hp.length_eq⟩
  · rintro s hs rfl
    exact permute_reversedAxes_twice hs

/-- The first list takes the first axis twice, so nothing undoes it. The second one takes every axis
once, to another position. -/
theorem permutations_compose_and_invert_repeated :
    let s : NamedShape := ⟨[2, 3, 5], [some "row", none, some "column"]⟩
    let p : List ℤ := [2, 0, 0]
    let q : List ℤ := [1, 2, 0]
    let r : NamedShape := ⟨[2, 2, 5], [some "row", some "row", some "column"]⟩
    s.Aligned ∧ SourceAxes 3 p ∧ SourceAxes 3 q ∧ permuteTwice s p q = pure r ∧
      permute s.dims [0, 0, 2] s.given = pure r ∧
      (¬ ∃ back, ∀ s : NamedShape, s.Aligned → s.rank = 3 → permuteTwice s p back = pure s) ∧
      ∃ back, ∀ s : NamedShape, s.Aligned → s.rank = 3 → permuteTwice s q back = pure s := by
  intro s p q r
  have hs : s.Aligned := rfl
  have hp : SourceAxes 3 p := by decide
  have hq : SourceAxes 3 q := by decide
  obtain ⟨-, hcompose, hinvert, -⟩ := permutations_compose_and_invert 3
  obtain ⟨r', htwice, honce⟩ := hcompose s hs rfl p q hp hq
  have hok : (permute s.dims [0, 0, 2] s.given).result = .ok r :=
    Outcome.result_eq_ok_of_answer? (by decide +kernel)
  obtain rfl : r' = r := Outcome.result_pure_eq_ok.mp (honce ▸ hok)
  have hundone := mt (hinvert p hp).mp (by decide)
  exact ⟨hs, hp, hq, htwice, honce, hundone, (hinvert q hq).mpr (by decide)⟩

end TensorShape
