import TensorShape.Proofs.Axis.Composition
import TensorShape.Proofs.UnitRemoval

/-! # Removing axes in stages

What two removals one after the other leave is left by one removal, of the axes of the first stage
and of those that the axes of the second stage were before it. This holds for any lists, since an
entry that is no axis of the shape it is removed from stands for none at all. Unit axes can be
removed in stages exactly if they can be removed at once.
-/

namespace TensorShape

/-- A removal, and then a further one from what it leaves. -/
def inStages (remove : Shape → List ℤ → GivenNames → Outcome NamedShape) (s : NamedShape)
    (axes more : List ℤ) : Outcome NamedShape := do
  let left ← remove s.dims axes s.given
  remove left.dims more left.given

/-- The axes that are gone after two stages. The axes of the second stage are positions in the list
of those that the first stage keeps; a number that is no position there stands for no axis. -/
def goneInStages (rank : ℕ) (axes more : List ℤ) : List ℤ :=
  axes ++ selectAxes more ((allAxes rank).filter fun axis => axis ∉ axes)

variable {s : NamedShape} {dims : Shape} {axes more : List ℤ}

theorem erase_goneInStages (hs : s.Aligned) (axes more : List ℤ) :
    (s.erase axes).erase more = s.erase (goneInStages s.rank axes more) := by
  have hnames : s.names.length = s.rank := hs
  rw [goneInStages, ← eraseAxes_allAxes]
  simp only [LabelledShape.erase, eraseAxes_eraseAxes, hnames, LabelledShape.rank]

/-- The axes of the second stage have the dimensions that are left at their positions. -/
theorem allUnit_goneInStages_iff :
    AllUnit dims (goneInStages dims.length axes more) ↔
      AllUnit dims axes ∧ AllUnit (eraseAxes axes dims) more := by
  have hkept : selectAxes (goneInStages dims.length axes more) dims =
      selectAxes axes dims ++ selectAxes more (eraseAxes axes dims) := by
    have hwithin : ∀ i ∈ (allAxes dims.length).filter fun axis => axis ∉ axes,
        0 ≤ i ∧ i < dims.length := fun i hi => mem_allAxes.mp (List.mem_of_mem_filter hi)
    rw [goneInStages, selectAxes_append, ← selectAxes_selectAxes hwithin,
      ← eraseAxes_eq_selectAxes]
  rw [AllUnit, hkept, List.forall_mem_append]
  rfl

theorem inStages_removeAxes (hs : s.Aligned) (axes more : List ℤ) :
    inStages removeAxes s axes more = pure (s.erase (goneInStages s.rank axes more)) := by
  rw [inStages, removeAxes_eq_pure hs, pure_bind,
    removeAxes_eq_pure (LabelledShape.aligned_erase hs axes), erase_goneInStages hs]

theorem inStages_removeUnitAxes (hs : s.Aligned)
    (h : AllUnit s.dims (goneInStages s.rank axes more)) :
    inStages removeUnitAxes s axes more = pure (s.erase (goneInStages s.rank axes more)) := by
  obtain ⟨hfirst, hsecond⟩ := allUnit_goneInStages_iff.mp h
  rw [inStages, removeUnitAxes_eq_pure hs hfirst, pure_bind,
    removeUnitAxes_eq_pure (LabelledShape.aligned_erase hs axes) hsecond, erase_goneInStages hs]

theorem rejectedWith_inStages (hs : s.Aligned)
    (h : ¬ AllUnit s.dims (goneInStages s.rank axes more)) :
    (inStages removeUnitAxes s axes more).RejectedWith .squeezeNonUnitDim := by
  by_cases hfirst : AllUnit s.dims axes
  · have hsecond : ¬ AllUnit (s.erase axes).dims more := fun hsecond =>
      h (allUnit_goneInStages_iff.mpr ⟨hfirst, hsecond⟩)
    rw [inStages, removeUnitAxes_eq_pure hs hfirst, pure_bind]
    exact rejectedWith_removeUnitAxes (LabelledShape.aligned_erase hs axes) hsecond
  · exact (rejectedWith_removeUnitAxes hs hfirst).bind _

/-- Removing axes in two stages answers what removing them at once does. Removing unit axes does as
well, where both succeed; otherwise both are rejected for the dimension of an axis. -/
theorem removal_in_stages_as_at_once (hs : s.Aligned) (axes more : List ℤ) :
    let gone := goneInStages s.rank axes more
    (∃ r, inStages removeAxes s axes more = pure r ∧ removeAxes s.dims gone s.given = pure r) ∧
    ((∃ r, inStages removeUnitAxes s axes more = pure r ∧
        removeUnitAxes s.dims gone s.given = pure r) ∨
      (inStages removeUnitAxes s axes more).RejectedWith .squeezeNonUnitDim ∧
        (removeUnitAxes s.dims gone s.given).RejectedWith .squeezeNonUnitDim) := by
  intro gone
  refine ⟨⟨_, inStages_removeAxes hs axes more, removeAxes_eq_pure hs gone⟩, ?_⟩
  by_cases h : AllUnit s.dims gone
  · exact Or.inl ⟨_, inStages_removeUnitAxes hs h, removeUnitAxes_eq_pure hs h⟩
  · exact Or.inr ⟨rejectedWith_inStages hs h, rejectedWith_removeUnitAxes hs h⟩

/-- In the first stage an axis comes twice and two are none of the shape, and in the second stage
two are none of what is left; its other one was the last axis before. What is left is the same,
whatever the dimensions of the axes are that go. -/
theorem removal_in_stages_as_at_once_outside :
    let s : NamedShape := ⟨[2, 1, 3, 1], [some "row", none, some "column", none]⟩
    let r : NamedShape := ⟨[2, 3], [some "row", some "column"]⟩
    s.Aligned ∧ goneInStages s.rank [1, -1, 7, 1] [2, -1, 3] = [1, -1, 7, 1, 3] ∧
      inStages removeAxes s [1, -1, 7, 1] [2, -1, 3] = pure r ∧
      removeAxes s.dims [1, -1, 7, 1, 3] s.given = pure r ∧
      inStages removeUnitAxes s [1, -1, 7, 1] [2, -1, 3] = pure r ∧
      removeUnitAxes s.dims [1, -1, 7, 1, 3] s.given = pure r := by
  intro s r
  have hs : s.Aligned := rfl
  have hplain : (inStages removeAxes s [1, -1, 7, 1] [2, -1, 3]).result = .ok r :=
    Outcome.result_eq_ok_of_answer? (by decide +kernel)
  have hunit : (inStages removeUnitAxes s [1, -1, 7, 1] [2, -1, 3]).result = .ok r :=
    Outcome.result_eq_ok_of_answer? (by decide +kernel)
  obtain ⟨⟨left, hleft, honce⟩, hunits⟩ :=
    removal_in_stages_as_at_once hs [1, -1, 7, 1] [2, -1, 3]
  obtain rfl : left = r := Outcome.result_pure_eq_ok.mp (hleft ▸ hplain)
  rcases hunits with ⟨r', hstages, honce'⟩ | ⟨hrejected, -⟩
  · obtain rfl : r' = r := Outcome.result_pure_eq_ok.mp (hstages ▸ hunit)
    exact ⟨hs, rfl, hleft, honce, hstages, honce'⟩
  · exact absurd ⟨_, hunit⟩ hrejected.not_succeeds

end TensorShape
