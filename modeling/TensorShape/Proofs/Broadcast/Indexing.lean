import Mathlib.Data.List.Forall2
import TensorShape.Proofs.Axis.Erasure
import TensorShape.Proofs.Axis.Selection
import TensorShape.Proofs.Broadcast.Mapping

/-! # Elements under a mapping

An element of the target is read from the element of the source whose index has zero along the axes
of dimension one and the index of the target along all others. Every target element has a source
element. Every source element is read, too, unless the target is empty: source axes of dimensions
other than one have different targets, however far apart they are, so that the indices along them
can be put together.
-/

namespace TensorShape

/-- An index has one entry for each axis, none of them outside its dimension. -/
def InBounds (dims index : List ℤ) : Prop := List.Forall₂ (fun d i => 0 ≤ i ∧ i < d) dims index

def sourceAlong? (index : List ℤ) (current : MappedAxis) : Option ℤ :=
  if current.2 = 1 then some 0 else entryAt? index current.1

/-- The index of the source element that the target element of the given index is read from. -/
def sourceIndex? (source : Shape) (axes index : List ℤ) : Option (List ℤ) :=
  (axes.zip source).mapM (sourceAlong? index)

abbrev PlacedAxis := ℤ × ℤ × ℤ

/-- An index along a target axis under which the given source indices are read: that of the source
axis of dimension other than one that is mapped there, if there is any. -/
def targetEntry (placed : List PlacedAxis) (axis : ℤ) : ℤ :=
  ((placed.find? fun e => decide (e.1 = axis ∧ e.2.1 ≠ 1)).map fun e => e.2.2).getD 0

/-- Two source axes of dimensions other than one that share a target have the same index. -/
def Consistent (e e' : PlacedAxis) : Prop :=
  e.1 = e'.1 → e.2.1 ≠ 1 → e'.2.1 ≠ 1 → e.2.2 = e'.2.2

instance : Std.Symm Consistent where
  symm _ _ h htarget hdim hdim' := (h htarget.symm hdim' hdim).symm

variable {source target : Shape} {axes t u dims index : List ℤ} {placed : List PlacedAxis}

theorem InBounds.exists_entryAt? (h : InBounds dims index) {axis d : ℤ}
    (hd : entryAt? dims axis = some d) : ∃ i, entryAt? index axis = some i ∧ 0 ≤ i ∧ i < d := by
  cases axis with
  | negSucc n => cases hd
  | ofNat n =>
    simp only [entryAt?] at hd ⊢
    induction h generalizing n with
    | nil => cases hd
    | cons hi _ ih =>
      cases n with
      | zero =>
        cases hd
        exact ⟨_, rfl, hi⟩
      | succ n => exact ih n hd

theorem exists_mapM_forall₂ {α β γ : Type} {f : α → Option β} {g : α → γ} {R : γ → β → Prop}
    {xs : List α} (h : ∀ x ∈ xs, ∃ y, f x = some y ∧ R (g x) y) :
    ∃ ys, xs.mapM f = some ys ∧ List.Forall₂ R (xs.map g) ys := by
  induction xs with
  | nil => exact ⟨[], rfl, .nil⟩
  | cons x xs ih =>
    rw [List.forall_mem_cons] at h
    obtain ⟨y, hy, hR⟩ := h.1
    obtain ⟨ys, hys, hall⟩ := ih h.2
    exact ⟨y :: ys, by rw [List.mapM_cons, hy, hys]; rfl, .cons hR hall⟩

theorem mapM_map_eq_some {α β γ : Type} {f : α → Option β} {g : γ → α} {k : γ → β} {zs : List γ}
    (h : ∀ z ∈ zs, f (g z) = some (k z)) : (zs.map g).mapM f = some (zs.map k) := by
  induction zs with
  | nil => rfl
  | cons z zs ih =>
    rw [List.forall_mem_cons] at h
    rw [List.map_cons, List.mapM_cons, h.1, ih h.2]
    rfl

/-- Every target element is read from a source element. -/
theorem exists_sourceIndex? (h : (checkMapping source target axes).result = .ok ())
    (ht : InBounds target t) : ∃ u, sourceIndex? source axes t = some u ∧ InBounds source u := by
  obtain ⟨hlen, -, hlands, -⟩ := result_checkMapping_eq_ok.mp h
  have hentry : ∀ current ∈ axes.zip source,
      ∃ i, sourceAlong? t current = some i ∧ 0 ≤ i ∧ i < current.2 := by
    intro current hcurrent
    unfold sourceAlong?
    split
    · rename_i hone
      exact ⟨0, rfl, le_rfl, hone ▸ Int.one_pos⟩
    · rename_i hone
      exact ht.exists_entryAt? ((hlands current hcurrent).2.resolve_left hone)
  obtain ⟨u, hu, hbounds⟩ :=
    exists_mapM_forall₂ (g := Prod.snd) (R := fun d i => 0 ≤ i ∧ i < d) hentry
  rw [List.map_snd_zip hlen.ge] at hbounds
  exact ⟨u, hu, hbounds⟩

section Placed

variable (hlands : ∀ e ∈ placed, Lands target (e.1, e.2.1))
  (hbounds : ∀ e ∈ placed, 0 ≤ e.2.2 ∧ e.2.2 < e.2.1)
  (horder : placed.Pairwise fun e e' => Follows (e.1, e.2.1) (e'.1, e'.2.1))

include horder in
theorem consistent_of_mem {e e' : PlacedAxis} (he : e ∈ placed) (he' : e' ∈ placed) :
    Consistent e e' := by
  have hpair : placed.Pairwise Consistent :=
    horder.imp fun hfollows htarget hdim _ => absurd (hfollows.2 htarget.symm).1 hdim
  exact hpair.forall_of_forall (fun _ _ _ _ _ => rfl) he he'

theorem targetEntry_cases (placed : List PlacedAxis) (axis : ℤ) :
    ((∀ e ∈ placed, e.1 = axis → e.2.1 = 1) ∧ targetEntry placed axis = 0) ∨
      ∃ e ∈ placed, e.1 = axis ∧ e.2.1 ≠ 1 ∧ targetEntry placed axis = e.2.2 := by
  unfold targetEntry
  cases hfind : placed.find? fun e => decide (e.1 = axis ∧ e.2.1 ≠ 1) with
  | none =>
    left
    refine ⟨fun e he htarget => by_contra fun hdim => ?_, rfl⟩
    have hnot := List.find?_eq_none.mp hfind e he
    rw [decide_eq_true_eq] at hnot
    exact hnot ⟨htarget, hdim⟩
  | some e =>
    right
    obtain ⟨htarget, hdim⟩ : e.1 = axis ∧ e.2.1 ≠ 1 := by simpa using List.find?_some hfind
    exact ⟨e, List.mem_of_find?_eq_some hfind, htarget, hdim, rfl⟩

include horder in
theorem targetEntry_eq {e : PlacedAxis} (he : e ∈ placed) (hdim : e.2.1 ≠ 1) :
    targetEntry placed e.1 = e.2.2 := by
  rcases targetEntry_cases placed e.1 with ⟨hunit, -⟩ | ⟨e', he', htarget, hdim', heq⟩
  · exact absurd (hunit e he rfl) hdim
  · exact heq.trans (consistent_of_mem horder he' he htarget hdim' hdim)

include hlands hbounds in
theorem targetEntry_bounds {axis d : ℤ} (haxis : entryAt? target axis = some d) (hd : 1 ≤ d) :
    0 ≤ targetEntry placed axis ∧ targetEntry placed axis < d := by
  rcases targetEntry_cases placed axis with ⟨-, hzero⟩ | ⟨e, he, rfl, hdim, heq⟩
  · rw [hzero]
    exact ⟨le_rfl, hd⟩
  · have hsame := haxis.symm.trans ((hlands e he).2.resolve_left hdim)
    rw [heq, Option.some.inj hsame]
    exact hbounds e he

def targetIndex (target : Shape) (placed : List PlacedAxis) : List ℤ :=
  (allAxes target.length).map (targetEntry placed)

theorem entryAt?_targetIndex {axis : ℤ} (h : 0 ≤ axis ∧ axis < target.length) :
    entryAt? (targetIndex target placed) axis = some (targetEntry placed axis) := by
  rw [targetIndex, entryAt?_map, entryAt?_allAxes_eq_some.mpr ⟨rfl, h⟩]
  rfl

include hlands hbounds in
theorem inBounds_targetIndex (hpos : ∀ d ∈ target, 1 ≤ d) :
    InBounds target (targetIndex target placed) := by
  refine List.forall₂_iff_get.mpr ⟨by simp [targetIndex, allAxes], fun n hn hn' => ?_⟩
  have haxis : entryAt? target n = some target[n] := List.getElem?_eq_getElem hn
  simpa [targetIndex, allAxes] using
    targetEntry_bounds hlands hbounds haxis (hpos _ (List.getElem_mem hn))

include hlands hbounds horder in
theorem sourceAlong?_targetIndex {e : PlacedAxis} (he : e ∈ placed) :
    sourceAlong? (targetIndex target placed) (e.1, e.2.1) = some e.2.2 := by
  unfold sourceAlong?
  split
  · rename_i hone
    have hentry := hbounds e he
    simp only at hone
    exact congrArg some (by omega)
  · rename_i hdim
    rw [entryAt?_targetIndex (hlands e he).1, targetEntry_eq horder he hdim]

end Placed

/-- Every source element is read for some target element, if the target is not empty. -/
theorem exists_targetIndex (h : (checkMapping source target axes).result = .ok ())
    (hpos : ∀ d ∈ target, 1 ≤ d) (hu : InBounds source u) :
    ∃ t, InBounds target t ∧ sourceIndex? source axes t = some u := by
  obtain ⟨hlen, -, hlands, horder⟩ := result_checkMapping_eq_ok.mp h
  obtain ⟨hulen, hbounds⟩ := List.forall₂_iff_zip.mp hu
  have hsource : axes.zip source =
      (axes.zip (source.zip u)).map fun e => (e.1, e.2.1) := by
    conv_lhs => rw [← List.map_fst_zip hulen.le, List.zip_map_right]
    rfl
  have hindex : u = (axes.zip (source.zip u)).map fun e => e.2.2 := by
    have hsnd : (axes.zip (source.zip u)).map Prod.snd = source.zip u :=
      List.map_snd_zip (by rw [List.length_zip]; omega)
    rw [← Function.comp_def Prod.snd Prod.snd, ← List.map_map, hsnd, List.map_snd_zip hulen.ge]
  rw [hsource, List.forall_mem_map] at hlands
  rw [hsource, List.pairwise_map] at horder
  have hbounds' : ∀ e ∈ axes.zip (source.zip u), 0 ≤ e.2.2 ∧ e.2.2 < e.2.1 :=
    fun e he => hbounds (List.of_mem_zip he).2
  refine ⟨targetIndex target (axes.zip (source.zip u)),
    inBounds_targetIndex hlands hbounds' hpos, ?_⟩
  rw [sourceIndex?, hsource]
  conv_rhs => rw [hindex]
  exact mapM_map_eq_some fun e he => sourceAlong?_targetIndex hlands hbounds' horder he

/-- An accepted mapping reads every target element from a source element, and every source element
for some target element where no dimension of the target is less than one. -/
theorem checkMapping_reads_elements (h : (checkMapping source target axes).result = .ok ()) :
    (∀ t, InBounds target t → ∃ u, sourceIndex? source axes t = some u ∧ InBounds source u) ∧
    ((∀ d ∈ target, 1 ≤ d) → ∀ u, InBounds source u →
      ∃ t, InBounds target t ∧ sourceIndex? source axes t = some u) :=
  ⟨fun _ ht => exists_sourceIndex? h ht, fun hpos _ hu => exists_targetIndex h hpos hu⟩

/-- Two axes of dimension one share a target, and one target axis comes from none. -/
theorem checkMapping_reads_elements_shared_target :
    (checkMapping [1, 1, 3] [5, 2, 3] [0, 0, 2]).result = .ok () ∧ InBounds [5, 2, 3] [4, 1, 2] ∧
      (∃ u, sourceIndex? [1, 1, 3] [0, 0, 2] [4, 1, 2] = some u ∧ InBounds [1, 1, 3] u) ∧
      (∀ d ∈ ([5, 2, 3] : Shape), 1 ≤ d) ∧ InBounds [1, 1, 3] [0, 0, 1] ∧
      ∃ t, InBounds [5, 2, 3] t ∧ sourceIndex? [1, 1, 3] [0, 0, 2] t = some [0, 0, 1] := by
  have h : (checkMapping [1, 1, 3] [5, 2, 3] [0, 0, 2]).result = .ok () :=
    Outcome.result_eq_ok_of_answer? (by decide +kernel)
  have ht : InBounds [5, 2, 3] [4, 1, 2] := by simp [InBounds]
  have hu : InBounds [1, 1, 3] [0, 0, 1] := by simp [InBounds]
  have hpos : ∀ d ∈ ([5, 2, 3] : Shape), 1 ≤ d := by decide
  obtain ⟨hread, hreached⟩ := checkMapping_reads_elements h
  exact ⟨h, ht, hread _ ht, hpos, hu, hreached hpos _ hu⟩

end TensorShape
