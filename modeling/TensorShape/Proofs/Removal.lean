import TensorShape.Proofs.Axis.Erasure
import TensorShape.Proofs.Axis.Naming
import TensorShape.Removal

/-! # Named shapes without some of their axes

Dimensions and names go together: what is known of erased lists holds of named shapes. In two
shapes put one after the other the axes of either part are erased within it.
-/

namespace TensorShape

namespace LabelledShape

variable {ν : Type} {s t : LabelledShape ν} {axes gone more : List ℤ}

def erase (axes : List ℤ) (s : LabelledShape ν) : LabelledShape ν :=
  ⟨eraseAxes axes s.dims, eraseAxes axes s.names⟩

theorem aligned_erase (h : s.Aligned) (axes : List ℤ) : (s.erase axes).Aligned :=
  length_eraseAxes_congr h axes

theorem rank_erase (h : DistinctAxes s.rank axes) :
    ((s.erase axes).rank : ℤ) = s.rank - axes.length :=
  h.length_eraseAxes

theorem append_assoc (s t u : LabelledShape ν) : (s.append t).append u = s.append (t.append u) := by
  simp only [append, List.append_assoc]

theorem erase_nil (s : LabelledShape ν) : s.erase [] = s := by
  have hself {α : Type} (xs : List α) : eraseAxes [] xs = xs :=
    eraseAxes_eq_self fun _ _ => List.not_mem_nil
  rw [erase, hself, hself]

theorem erase_congr (s : LabelledShape ν) (h : ∀ i, i ∈ axes ↔ i ∈ more) :
    s.erase axes = s.erase more := by
  have hsame {α : Type} (xs : List α) : eraseAxes axes xs = eraseAxes more xs :=
    eraseAxes_congr fun n _ => h n
  rw [erase, erase, hsame, hsame]

theorem erase_comm (axes more : List ℤ) (s : LabelledShape ν) :
    s.erase (axes ++ more) = s.erase (more ++ axes) :=
  s.erase_congr fun i => by rw [List.mem_append, List.mem_append, or_comm]

theorem erase_append_left (t : LabelledShape ν) (hs : s.Aligned) (h : ∀ i ∈ axes, i < s.rank) :
    (s.append t).erase axes = (s.erase axes).append t := by
  have hnames : ∀ i ∈ axes, i < s.names.length := hs.symm ▸ h
  simp only [erase, append, eraseAxes_append_left _ h,
    eraseAxes_append_left _ hnames]

theorem erase_append_right (t : LabelledShape ν) (hs : s.Aligned) (h : ∀ i ∈ axes, 0 ≤ i) :
    (s.append t).erase (axes.map fun i => s.rank + i) = s.append (t.erase axes) := by
  have hnames := eraseAxes_append_right s.names t.names h
  rw [hs] at hnames
  simp only [erase, append, rank, eraseAxes_append_right _ _ h, hnames]

theorem erase_erase (hs : s.Aligned) (hgone : DistinctAxes s.rank gone)
    (hmore : DistinctAxes s.rank more) (hdisj : ∀ i ∈ more, i ∉ gone) :
    (s.erase gone).erase (more.map (indexAfter gone)) = s.erase (gone ++ more) := by
  have hnames : s.names.length = s.rank := hs
  simp only [erase, eraseAxes_map_indexAfter hgone hmore hdisj,
    eraseAxes_map_indexAfter (hnames ▸ hgone) (hnames ▸ hmore) hdisj]

end LabelledShape

theorem removeAxes_of_assign {dims : Shape} {names : GivenNames} {assigned : List AxisName}
    (h : names.assign dims = pure assigned) (axes : List ℤ) :
    removeAxes dims axes names = pure (LabelledShape.erase axes ⟨dims, assigned⟩) := by
  have hlen := GivenNames.length_of_assign (h ▸ Outcome.result_pure assigned)
  rw [removeAxes, h, pure_bind]
  exact LabelledShape.build_eq_pure (length_eraseAxes_congr hlen axes)

theorem removeAxes_eq_pure {s : NamedShape} (h : s.Aligned) (axes : List ℤ) :
    removeAxes s.dims axes s.given = pure (s.erase axes) :=
  removeAxes_of_assign h.assign_given axes

end TensorShape
