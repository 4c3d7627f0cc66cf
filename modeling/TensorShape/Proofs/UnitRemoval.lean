import TensorShape.Proofs.Diagnostic.Reporting
import TensorShape.Proofs.Removal

/-! # Removing unit axes

Axes of dimension one are removed as any axes are. The removal is rejected exactly if one of the
axes to be removed has another dimension, and a list is asked only for its entries that are axes of
the shape.
-/

namespace TensorShape

variable {dims : Shape} {axes : List ℤ} {s : NamedShape}

def nonUnit? (dims : Shape) (axes : List ℤ) : Option (ℤ × ℕ) :=
  dims.zipIdx.find? fun entry => decide ((entry.2 : ℤ) ∈ axes ∧ entry.1 ≠ 1)

section Copying

theorem copyUnlisted_eq (axes : List ℤ) (index : ℕ) (kept : NamedShape)
    (rest : List (ℤ × AxisName)) :
    copyUnlisted axes index kept rest =
      match (rest.zipIdx index).find? fun entry =>
        decide ((entry.2 : ℤ) ∈ axes ∧ entry.1.1 ≠ 1) with
      | some entry => reject (.nonUnitDim entry.2 entry.1.1)
      | none =>
        let left := ((rest.zipIdx index).filter fun entry =>
          decide ((entry.2 : ℤ) ∉ axes)).map Prod.fst
        pure ⟨kept.dims ++ left.map Prod.fst, kept.names ++ left.map Prod.snd⟩ := by
  induction rest generalizing index kept with
  | nil => simp [copyUnlisted]
  | cons axis rest ih =>
    obtain ⟨size, name⟩ := axis
    rw [copyUnlisted, List.zipIdx_cons, List.find?_cons, List.filter_cons]
    by_cases hlisted : (index : ℤ) ∈ axes
    · by_cases hsize : size = 1
      · simp [hlisted, hsize, ih]
      · simp [hlisted, hsize]
    · simp [hlisted, ih]

theorem copyUnlisted_zip {names : List AxisName} (h : names.length = dims.length) :
    copyUnlisted axes 0 ⟨[], []⟩ (dims.zip names) =
      match nonUnit? dims axes with
      | some (size, axis) => reject (.nonUnitDim axis size)
      | none => pure ⟨eraseAxes axes dims, eraseAxes axes names⟩ := by
  have hdims : (dims.zip names).map Prod.fst = dims := List.map_fst_zip (Nat.le_of_eq h.symm)
  have hnames : (dims.zip names).map Prod.snd = names := List.map_snd_zip (Nat.le_of_eq h)
  have hleft : eraseAxes axes dims = (eraseAxes axes (dims.zip names)).map Prod.fst := by
    rw [map_eraseAxes, hdims]
  have hleft' : eraseAxes axes names = (eraseAxes axes (dims.zip names)).map Prod.snd := by
    rw [map_eraseAxes, hnames]
  have hfirst : nonUnit? dims axes = ((dims.zip names).zipIdx.find? fun entry =>
      decide ((entry.2 : ℤ) ∈ axes ∧ entry.1.1 ≠ 1)).map (Prod.map Prod.fst id) := by
    conv_lhs => rw [nonUnit?, ← hdims, List.zipIdx_map, List.find?_map]
    rfl
  rw [copyUnlisted_eq, hfirst, hleft, hleft', eraseAxes]
  cases (dims.zip names).zipIdx.find? fun entry =>
    decide ((entry.2 : ℤ) ∈ axes ∧ entry.1.1 ≠ 1) <;> rfl

/-- The copying removes the axes at once, unless it meets an axis that is no unit axis. -/
theorem removeUnitAxes_eq (dims : Shape) (axes : List ℤ) (names : GivenNames) :
    removeUnitAxes dims axes names = (do
      let names ← names.assign dims
      match nonUnit? dims axes with
      | some (size, axis) => reject (.nonUnitDim axis size)
      | none => LabelledShape.build (eraseAxes axes dims) (eraseAxes axes names)) := by
  refine Outcome.bind_congr_of_ok fun given hgiven => ?_
  rw [copyUnlisted_zip (GivenNames.length_of_assign hgiven)]
  cases nonUnit? dims axes with
  | none => rw [pure_bind]
  | some found => exact reject_bind _ _

end Copying

/-- The listed axes, as far as the shape has them, have dimension one. -/
def AllUnit (dims : Shape) (axes : List ℤ) : Prop := ∀ d ∈ selectAxes axes dims, d = 1

instance (dims : Shape) (axes : List ℤ) : Decidable (AllUnit dims axes) :=
  inferInstanceAs (Decidable (∀ d ∈ selectAxes axes dims, d = 1))

theorem allUnit_congr {more : List ℤ} (h : ∀ i, i ∈ axes ↔ i ∈ more) :
    AllUnit dims axes ↔ AllUnit dims more := by
  simp only [AllUnit, mem_selectAxes, h]

theorem nonUnit?_eq_none_iff : nonUnit? dims axes = none ↔ AllUnit dims axes := by
  simp only [nonUnit?, List.find?_eq_none, decide_eq_true_eq, not_and, not_not]
  constructor
  · intro h d hd
    obtain ⟨i, hi, hentry⟩ := mem_selectAxes.mp hd
    cases i with
    | ofNat n => exact h (d, n) (List.mk_mem_zipIdx_iff_getElem?.mpr hentry) hi
    | negSucc n => cases hentry
  · intro h entry hmem hi
    exact h entry.1 (mem_selectAxes.mpr ⟨_, hi, List.mem_zipIdx_iff_getElem?.mp hmem⟩)

theorem removeUnitAxes_eq_removeAxes {names : GivenNames} (h : AllUnit dims axes) :
    removeUnitAxes dims axes names = removeAxes dims axes names := by
  simp only [removeUnitAxes_eq, removeAxes, nonUnit?_eq_none_iff.mpr h]

theorem removeUnitAxes_eq_pure (hs : s.Aligned) (h : AllUnit s.dims axes) :
    removeUnitAxes s.dims axes s.given = pure (s.erase axes) :=
  (removeUnitAxes_eq_removeAxes h).trans (removeAxes_eq_pure hs axes)

theorem rejectedWith_removeUnitAxes (hs : s.Aligned) (h : ¬ AllUnit s.dims axes) :
    (removeUnitAxes s.dims axes s.given).RejectedWith .squeezeNonUnitDim := by
  rw [removeUnitAxes_eq, hs.assign_given, pure_bind]
  split
  · exact Violation.rejectedWith_reject fun _ hm => absurd hm List.not_mem_nil
  · rename_i hnone
    exact absurd (nonUnit?_eq_none_iff.mp hnone) h

end TensorShape
