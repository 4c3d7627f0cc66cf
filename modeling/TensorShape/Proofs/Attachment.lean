import TensorShape.Proofs.Broadcast.Join
import TensorShape.Proofs.Convolution
import TensorShape.Proofs.Dot.Contraction
import TensorShape.Proofs.Ending.Operations

/-! # Names stay attached to their dimensions

Where an operation succeeds, every axis of the result has the dimension and the name of an axis of
an operand, in the order of the operation, or at least a name from an aligned axis. This holds for
arbitrary lists of axes: whatever they select or erase, they select and erase it from the dimensions
and from the names alike. So dimensions and names are never found to be unequally many.
-/

namespace TensorShape

open Outcome

/-- The names on the axes of a shape, as the caller gives them; none where none are given. -/
def GivenNames.read : GivenNames → Shape → List AxisName
  | none, dims => List.replicate dims.length none
  | some given, _ => given.map fun v => (AxisName.ofValue? v).getD none

def GivenNames.on (names : GivenNames) (dims : Shape) : NamedShape := ⟨dims, names.read dims⟩

namespace LabelledShape

variable {ν : Type} {s t : LabelledShape ν} {axes : List ℤ}

def pairs (s : LabelledShape ν) : List (ℤ × ν) := s.dims.zip s.names

def select (axes : List ℤ) (s : LabelledShape ν) : LabelledShape ν :=
  ⟨selectAxes axes s.dims, selectAxes axes s.names⟩

theorem pairs_erase (h : s.Aligned) : (s.erase axes).pairs = eraseAxes axes s.pairs :=
  (eraseAxes_zip axes (Eq.symm h)).symm

theorem pairs_erase_sublist (h : s.Aligned) : (s.erase axes).pairs.Sublist s.pairs := by
  rw [pairs_erase h]
  exact eraseAxes_sublist axes s.pairs

theorem pairs_select (h : s.Aligned) : (s.select axes).pairs = selectAxes axes s.pairs :=
  (selectAxes_zip axes (Eq.symm h)).symm

theorem pairs_append (h : s.Aligned) : (s.append t).pairs = s.pairs ++ t.pairs :=
  List.zip_append (Eq.symm h)

theorem length_pairs (h : s.Aligned) : s.pairs.length = s.rank := by
  rw [pairs, List.length_zip, h, Nat.min_self, rank]

variable [ToValue ν] {dims : Shape} {names : List ν}

theorem result_build_eq_ok :
    (build dims names).result = .ok s ↔ names.length = dims.length ∧ ⟨dims, names⟩ = s := by
  unfold build
  split
  · rename_i h
    rw [result_pure_eq_ok, and_iff_right h]
  · rename_i h
    simp [Outcome.fault, h]

end LabelledShape

namespace Outcome

variable {x : Outcome NamedShape} {V : Violation → Prop} {F : Fault → Prop}

/-- The call never finds dimensions and names unequally many. Where it succeeds there is one name
for each dimension, and the result has the property. -/
def KeepsNames (x : Outcome NamedShape) (Q : NamedShape → Prop) : Prop :=
  (∀ names dims, x.result ≠ .error (.fault (.misaligned names dims))) ∧
    ∀ r, x.result = .ok r → r.Aligned ∧ Q r

theorem Ends.result_ne_misaligned (h : x.Ends V F) (hF : ∀ names dims, ¬ F (.misaligned names dims))
    (names : List Value) (dims : List ℤ) :
    x.result ≠ .error (.fault (.misaligned names dims)) := by
  intro hfault
  rcases h.fault_of_result hfault with hf | ⟨defect, hdefect⟩
  · exact hF _ _ hf
  · cases hdefect

end Outcome

variable {dims lhs rhs : Shape} {names lhsNames rhsNames : GivenNames} {given : List AxisName}
  {r : NamedShape}

theorem GivenNames.read_eq_of_assign (h : (names.assign dims).result = .ok given) :
    names.read dims = given := by
  rcases result_assign_eq_ok.mp h with ⟨rfl, rfl⟩ | ⟨rfl, -⟩
  · rfl
  · simp [read, ofNames, Function.comp_def]

theorem GivenNames.aligned_on (h : (names.assign dims).result = .ok given) :
    (names.on dims).Aligned := by
  rw [LabelledShape.Aligned, on, read_eq_of_assign h]
  exact length_of_assign h

section Removal

theorem eq_erase_of_removeAxes {axes : List ℤ} (h : (removeAxes dims axes names).result = .ok r) :
    (names.on dims).Aligned ∧ (names.on dims).erase axes = r := by
  obtain ⟨given, hgiven, hbuild⟩ := result_bind_eq_ok.mp h
  obtain ⟨-, rfl⟩ := LabelledShape.result_build_eq_ok.mp hbuild
  rw [← GivenNames.read_eq_of_assign hgiven]
  exact ⟨GivenNames.aligned_on hgiven, rfl⟩

theorem keepsNames_removeAxes (dims : Shape) (axes : List ℤ) (names : GivenNames) :
    (removeAxes dims axes names).KeepsNames fun r => r.pairs.Sublist (names.on dims).pairs := by
  refine ⟨(ends_removeAxes names.all_true axes).result_ne_misaligned (by simp), fun r h => ?_⟩
  obtain ⟨hon, rfl⟩ := eq_erase_of_removeAxes h
  exact ⟨LabelledShape.aligned_erase hon axes, LabelledShape.pairs_erase_sublist hon⟩

theorem eq_erase_of_removeUnitAxes {axes : List ℤ}
    (h : (removeUnitAxes dims axes names).result = .ok r) :
    (names.on dims).Aligned ∧ (names.on dims).erase axes = r := by
  rw [removeUnitAxes_eq] at h
  obtain ⟨given, hgiven, h⟩ := result_bind_eq_ok.mp h
  split at h
  · exact absurd h (result_reject_ne_ok _ _)
  · obtain ⟨-, rfl⟩ := LabelledShape.result_build_eq_ok.mp h
    rw [← GivenNames.read_eq_of_assign hgiven]
    exact ⟨GivenNames.aligned_on hgiven, rfl⟩

theorem keepsNames_removeUnitAxes (dims : Shape) (axes : List ℤ) (names : GivenNames) :
    (removeUnitAxes dims axes names).KeepsNames fun r => r.pairs.Sublist (names.on dims).pairs := by
  refine ⟨(ends_removeUnitAxes names.all_true axes).result_ne_misaligned (by simp), fun r h => ?_⟩
  obtain ⟨hon, rfl⟩ := eq_erase_of_removeUnitAxes h
  exact ⟨LabelledShape.aligned_erase hon axes, LabelledShape.pairs_erase_sublist hon⟩

theorem eq_contract_of_dot {lhsAxes rhsAxes : List ℤ}
    (h : (dot lhs lhsAxes lhsNames rhs rhsAxes rhsNames).result = .ok r) :
    (lhsNames.on lhs).Aligned ∧ (rhsNames.on rhs).Aligned ∧
      (lhsNames.on lhs).contract lhsAxes (rhsNames.on rhs) rhsAxes = r := by
  unfold dot at h
  split at h
  · exact absurd h (result_reject_ne_ok _ _)
  · obtain ⟨_, -, h⟩ := result_bind_eq_ok.mp h
    obtain ⟨left, hleft, h⟩ := result_bind_eq_ok.mp h
    obtain ⟨right, hright, h⟩ := result_bind_eq_ok.mp h
    obtain ⟨hl, rfl⟩ := eq_erase_of_removeAxes hleft
    obtain ⟨hr, rfl⟩ := eq_erase_of_removeAxes hright
    dsimp only at h
    split at h
    · exact ⟨hl, hr, result_pure_eq_ok.mp h⟩
    · exact absurd h (result_reject_ne_ok _ _)

theorem keepsNames_dot (lhs : Shape) (lhsAxes : List ℤ) (lhsNames : GivenNames) (rhs : Shape)
    (rhsAxes : List ℤ) (rhsNames : GivenNames) :
    (dot lhs lhsAxes lhsNames rhs rhsAxes rhsNames).KeepsNames fun r => ∃ left right,
      left.Sublist (lhsNames.on lhs).pairs ∧ right.Sublist (rhsNames.on rhs).pairs ∧
        r.pairs = left ++ right := by
  refine ⟨(ends_dot lhsNames.all_true rhsNames.all_true lhsAxes rhsAxes).result_ne_misaligned
    (by simp [ContractionFault]), fun r h => ?_⟩
  obtain ⟨hl, hr, rfl⟩ := eq_contract_of_dot h
  exact ⟨NamedShape.aligned_contract hl hr lhsAxes rhsAxes, _, _,
    LabelledShape.pairs_erase_sublist hl, LabelledShape.pairs_erase_sublist hr,
    LabelledShape.pairs_append (LabelledShape.aligned_erase hl lhsAxes)⟩

end Removal

theorem length_of_permute {permutation : List ℤ}
    (h : (permute dims permutation names).result = .ok r) : permutation.length = dims.length := by
  obtain ⟨given, -, h⟩ := result_bind_eq_ok.mp h
  split at h
  · exact absurd h (result_reject_ne_ok _ _)
  · rename_i hlen
    exact not_not.mp hlen

theorem eq_select_of_permute {permutation : List ℤ}
    (h : (permute dims permutation names).result = .ok r) :
    (names.on dims).Aligned ∧ (∀ axis ∈ permutation, 0 ≤ axis ∧ axis < dims.length) ∧
      (names.on dims).select permutation = r := by
  obtain ⟨given, hgiven, h⟩ := result_bind_eq_ok.mp h
  split at h
  · exact absurd h (result_reject_ne_ok _ _)
  · split at h
    · exact absurd h (result_reject_ne_ok _ _)
    · rename_i hfind
      obtain ⟨-, rfl⟩ := LabelledShape.result_build_eq_ok.mp h
      rw [← GivenNames.read_eq_of_assign hgiven]
      exact ⟨GivenNames.aligned_on hgiven, within_of_find?_eq_none hfind, rfl⟩

theorem LabelledShape.aligned_select {ν : Type} {s : LabelledShape ν} {axes : List ℤ}
    (h : s.Aligned) (hwithin : ∀ axis ∈ axes, 0 ≤ axis ∧ axis < s.rank) :
    (s.select axes).Aligned := by
  have hnames : ∀ axis ∈ axes, 0 ≤ axis ∧ axis < s.names.length := h.symm ▸ hwithin
  exact (length_selectAxes hnames).trans (length_selectAxes hwithin).symm

theorem keepsNames_permute (dims : Shape) (permutation : List ℤ) (names : GivenNames) :
    (permute dims permutation names).KeepsNames fun r =>
      permutation.map (entryAt? (names.on dims).pairs) = r.pairs.map some := by
  refine ⟨(ends_permute names.all_true permutation).result_ne_misaligned (by simp), fun r h => ?_⟩
  obtain ⟨hon, hwithin, rfl⟩ := eq_select_of_permute h
  have hpairs : ∀ axis ∈ permutation, 0 ≤ axis ∧ axis < (names.on dims).pairs.length := by
    rw [LabelledShape.length_pairs hon]
    exact hwithin
  exact ⟨LabelledShape.aligned_select hon hwithin, (map_entryAt?_eq_map_some hpairs).trans
    (congrArg (List.map some) (LabelledShape.pairs_select hon).symm)⟩

theorem eq_combine_of_broadcast (h : (broadcast lhs lhsNames rhs rhsNames).result = .ok r) :
    (lhsNames.on lhs).Aligned ∧ (rhsNames.on rhs).Aligned ∧
      (lhsNames.on lhs).combine (rhsNames.on rhs) = r := by
  obtain ⟨left, hleft, hrest⟩ := result_bind_eq_ok.mp h
  obtain ⟨right, hright, -⟩ := result_bind_eq_ok.mp hrest
  rw [broadcast_eq_join (GivenNames.assign_eq_pure hleft) (GivenNames.assign_eq_pure hright)] at h
  have hl : LabelledShape.Aligned ⟨lhs, left⟩ := GivenNames.length_of_assign hleft
  have hr : LabelledShape.Aligned ⟨rhs, right⟩ := GivenNames.length_of_assign hright
  rw [GivenNames.on, GivenNames.on, GivenNames.read_eq_of_assign hleft,
    GivenNames.read_eq_of_assign hright]
  exact ⟨hl, hr, ((result_join_eq_ok hl hr).mp h).2⟩

theorem keepsNames_broadcast (lhs : Shape) (lhsNames : GivenNames) (rhs : Shape)
    (rhsNames : GivenNames) :
    (broadcast lhs lhsNames rhs rhsNames).KeepsNames fun r => ∀ i n,
      fromEnd none r.names i = some n →
        fromEnd none (lhsNames.read lhs) i = some n ∨
          fromEnd none (rhsNames.read rhs) i = some n := by
  refine ⟨(ends_broadcast lhsNames.all_true rhsNames.all_true).result_ne_misaligned (by simp),
    fun r h => ?_⟩
  obtain ⟨hl, hr, rfl⟩ := eq_combine_of_broadcast h
  refine ⟨NamedShape.aligned_combine hl hr, fun i n hn => ?_⟩
  rw [NamedShape.fromEnd_combine_names, Option.or_eq_some_iff] at hn
  exact hn.imp_right And.right

theorem keepsNames_convolve (input : Shape) (names : GivenNames) (kernel strides : List ℤ)
    (padding : List (List ℤ)) :
    (convolve input names kernel strides padding).KeepsNames fun r => ∀ (i : ℕ) (n : String),
      r.names[i]? = some (some n) → (names.read input)[i]? = some (some n) := by
  refine ⟨(ends_convolve names.all_true kernel strides padding).result_ne_misaligned ?_,
    fun r h => ?_⟩
  · rintro _ _ (hf | ⟨got, hf⟩ | hf)
    · cases hf
    · unfold wrongLength at hf
      split at hf <;> cases hf
    · cases hf
  · obtain ⟨edges, -, hfits, -, hgiven, hdims⟩ := result_convolve_eq_ok.mp h
    rw [GivenNames.read_eq_of_assign hgiven, LabelledShape.Aligned, hdims,
      hfits.length_convolvedDims]
    exact ⟨GivenNames.length_of_assign hgiven, fun _ _ hn => hn⟩

/-- Every operation on named shapes answers one name for each dimension and never finds them
unequally many. Axes that remain keep their names and their order, permuted axes take their names
along, and a name of a broadcast or a convolution is one of an aligned axis. -/
theorem names_stay_attached :
    (∀ dims axes (names : GivenNames), (removeAxes dims axes names).KeepsNames fun r =>
      r.pairs.Sublist (names.on dims).pairs) ∧
    (∀ dims axes (names : GivenNames), (removeUnitAxes dims axes names).KeepsNames fun r =>
      r.pairs.Sublist (names.on dims).pairs) ∧
    (∀ dims permutation (names : GivenNames),
      (permute dims permutation names).KeepsNames fun r =>
        permutation.map (entryAt? (names.on dims).pairs) = r.pairs.map some) ∧
    (∀ lhs lhsAxes (lhsNames : GivenNames) rhs rhsAxes (rhsNames : GivenNames),
      (dot lhs lhsAxes lhsNames rhs rhsAxes rhsNames).KeepsNames fun r => ∃ left right,
        left.Sublist (lhsNames.on lhs).pairs ∧ right.Sublist (rhsNames.on rhs).pairs ∧
          r.pairs = left ++ right) ∧
    (∀ lhs (lhsNames : GivenNames) rhs (rhsNames : GivenNames),
      (broadcast lhs lhsNames rhs rhsNames).KeepsNames fun r => ∀ i n,
        fromEnd none r.names i = some n →
          fromEnd none (lhsNames.read lhs) i = some n ∨
            fromEnd none (rhsNames.read rhs) i = some n) ∧
    ∀ input (names : GivenNames) kernel strides padding,
      (convolve input names kernel strides padding).KeepsNames fun r => ∀ (i : ℕ) (n : String),
        r.names[i]? = some (some n) → (names.read input)[i]? = some (some n) :=
  ⟨keepsNames_removeAxes, keepsNames_removeUnitAxes, keepsNames_permute, keepsNames_dot,
    keepsNames_broadcast, keepsNames_convolve⟩

/-- An axis counted from the end is compared and stays, with its name. A unit axis goes, with its
name. -/
theorem names_stay_attached_axis_from_end :
    let lhsNames : GivenNames := .ofNames (some [some "row", some "column"])
    let rhsNames : GivenNames := .ofNames (some [none, some "depth"])
    (dot [2, 3] [1, -2, 1] lhsNames [3, 2] [0, -1, 0] rhsNames).result =
        .ok ⟨[2, 2], [some "row", some "depth"]⟩ ∧
      (∃ left right, left.Sublist (lhsNames.on [2, 3]).pairs ∧
        right.Sublist (rhsNames.on [3, 2]).pairs ∧
          [(2, some "row"), (2, some "depth")] = left ++ right) ∧
      (removeUnitAxes [1, 3] [0] lhsNames).result = .ok ⟨[3], [some "column"]⟩ ∧
      [(3, some "column")].Sublist (lhsNames.on [1, 3]).pairs := by
  intro lhsNames rhsNames
  have hdot : (dot [2, 3] [1, -2, 1] lhsNames [3, 2] [0, -1, 0] rhsNames).result =
      .ok ⟨[2, 2], [some "row", some "depth"]⟩ :=
    Outcome.result_eq_ok_of_answer? (by decide +kernel)
  have hunit : (removeUnitAxes [1, 3] [0] lhsNames).result = .ok ⟨[3], [some "column"]⟩ :=
    Outcome.result_eq_ok_of_answer? (by decide +kernel)
  obtain ⟨-, hunits, -, hdots, -⟩ := names_stay_attached
  exact ⟨hdot, ((hdots _ _ _ _ _ _).2 _ hdot).2, hunit, ((hunits _ _ _).2 _ hunit).2⟩

end TensorShape
