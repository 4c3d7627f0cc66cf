import Mathlib.Data.Int.Order.Basic
import Mathlib.Data.List.Count
import Mathlib.Data.List.Induction
import Mathlib.Data.List.Nodup
import Mathlib.Data.Option.Basic
import TensorShape.Axis.Selection

/-! # Erasing axes in stages

Erasing commutes with everything done to the entries one by one, so a law about erased lists is
read off the list of all axis indices. Erasing in two stages is erasing once, with the axes of the
second stage traced back through the first. A remaining axis moves to the front by one for each
erased axis before it.
-/

namespace TensorShape

variable {α : Type} {axes gone more : List ℤ} {xs ys : List α} {x : α}

theorem entryAt?_natCast (xs : List α) (n : ℕ) : entryAt? xs n = xs[n]? := rfl

theorem entryFromEitherEnd?_of_nonneg {i : ℤ} (hi : 0 ≤ i) :
    entryFromEitherEnd? xs i = entryAt? xs i := by
  obtain ⟨n, rfl⟩ := Int.eq_ofNat_of_zero_le hi
  rfl

theorem entryAt?_append_left {i : ℤ} (h : entryAt? xs i = some x) :
    entryAt? (xs ++ ys) i = some x := by
  cases i with
  | ofNat n =>
    have hn := (List.getElem?_eq_some_iff.mp h).1
    exact (List.getElem?_append_left hn).trans h
  | negSucc n => cases h

theorem entryAt?_append_right (xs ys : List α) {i : ℤ} (hi : 0 ≤ i) :
    entryAt? (xs ++ ys) (xs.length + i) = entryAt? ys i := by
  obtain ⟨n, rfl⟩ := Int.eq_ofNat_of_zero_le hi
  rw [← Int.natCast_add, entryAt?_natCast, entryAt?_natCast,
    List.getElem?_append_right (Nat.le_add_right _ _), Nat.add_sub_cancel_left]

theorem mem_selectAxes : x ∈ selectAxes axes xs ↔ ∃ i ∈ axes, entryAt? xs i = some x :=
  List.mem_filterMap

theorem eraseAxes_congr (h : ∀ n < xs.length, (n : ℤ) ∈ axes ↔ (n : ℤ) ∈ more) :
    eraseAxes axes xs = eraseAxes more xs := by
  unfold eraseAxes
  refine congrArg (List.map Prod.fst) (List.filter_congr fun entry he => ?_)
  have hlt := (List.mem_zipIdx he).2.1
  rw [decide_eq_decide, not_iff_not]
  exact h entry.2 (by omega)

theorem eraseAxes_eq_self (h : ∀ n < xs.length, (n : ℤ) ∉ axes) : eraseAxes axes xs = xs := by
  have hnone : eraseAxes axes xs = eraseAxes [] xs :=
    eraseAxes_congr fun n hn => by simp [h n hn]
  rw [hnone]
  simp [eraseAxes]

theorem eraseAxes_append (axes : List ℤ) (xs ys : List α) :
    eraseAxes axes (xs ++ ys) =
      eraseAxes axes xs ++ eraseAxes (axes.map fun i => i - xs.length) ys := by
  unfold eraseAxes
  rw [List.zipIdx_append, List.filter_append, List.map_append, Nat.zero_add,
    List.zipIdx_eq_map_add (i := xs.length), List.filter_map, List.map_map]
  congr 2
  refine List.filter_congr fun entry _ => ?_
  simp only [Function.comp_apply, decide_eq_decide, not_iff_not, List.mem_map]
  constructor
  · intro h
    exact ⟨_, h, by omega⟩
  · rintro ⟨i, hi, he⟩
    rwa [show ((xs.length + entry.2 : ℕ) : ℤ) = i by omega]

theorem eraseAxes_append_left (ys : List α) (h : ∀ i ∈ axes, i < xs.length) :
    eraseAxes axes (xs ++ ys) = eraseAxes axes xs ++ ys := by
  have hself : eraseAxes (axes.map fun i => i - xs.length) ys = ys := by
    refine eraseAxes_eq_self fun n _ hn => ?_
    obtain ⟨i, hi, he⟩ := List.mem_map.mp hn
    have hlt := h i hi
    omega
  rw [eraseAxes_append, hself]

theorem eraseAxes_append_right (xs ys : List α) (h : ∀ i ∈ axes, 0 ≤ i) :
    eraseAxes (axes.map fun i => xs.length + i) (xs ++ ys) = xs ++ eraseAxes axes ys := by
  have hself : eraseAxes (axes.map fun i => xs.length + i) xs = xs := by
    refine eraseAxes_eq_self fun n hn hm => ?_
    obtain ⟨i, hi, he⟩ := List.mem_map.mp hm
    have hnonneg := h i hi
    omega
  have hback : ((fun i : ℤ => i - xs.length) ∘ fun i => xs.length + i) = id := by
    funext i
    simp only [Function.comp_apply, id_eq]
    omega
  rw [eraseAxes_append, hself, List.map_map, hback, List.map_id]

theorem length_eraseAxes_congr {β : Type} {ys : List β} (h : xs.length = ys.length)
    (axes : List ℤ) : (eraseAxes axes xs).length = (eraseAxes axes ys).length := by
  have hmap : (xs.map fun _ => ()) = ys.map fun _ => () := by
    rw [List.map_const', List.map_const', h]
  rw [← List.length_map fun _ => (), map_eraseAxes, hmap, ← map_eraseAxes, List.length_map]

theorem eraseAxes_concat (axes : List ℤ) (xs : List α) (x : α) :
    eraseAxes axes (xs ++ [x]) =
      eraseAxes axes xs ++ if (xs.length : ℤ) ∈ axes then [] else [x] := by
  unfold eraseAxes
  rw [List.zipIdx_append, List.filter_append, List.map_append, Nat.zero_add]
  congr 1
  by_cases h : (xs.length : ℤ) ∈ axes <;> simp [h]

def allAxes (rank : ℕ) : List ℤ := (List.range rank).map Int.ofNat

theorem length_allAxes (rank : ℕ) : (allAxes rank).length = rank := by simp [allAxes]

theorem entryAt?_allAxes_eq_some {rank : ℕ} {i k : ℤ} :
    entryAt? (allAxes rank) i = some k ↔ i = k ∧ 0 ≤ i ∧ i < rank := by
  cases i with
  | ofNat n =>
    simp only [entryAt?, allAxes, List.getElem?_map, Option.map_eq_some_iff,
      List.getElem?_eq_some_iff, List.length_range, List.getElem_range]
    constructor
    · rintro ⟨m, ⟨hn, rfl⟩, rfl⟩
      exact ⟨rfl, Int.natCast_nonneg n, Int.ofNat_lt.mpr hn⟩
    · rintro ⟨rfl, -, hn⟩
      exact ⟨n, ⟨Int.ofNat_lt.mp hn, rfl⟩, rfl⟩
  | negSucc n =>
    simp only [entryAt?, reduceCtorEq, false_iff]
    omega

theorem nodup_allAxes (rank : ℕ) : (allAxes rank).Nodup :=
  List.nodup_range.map fun _ _ h => Int.ofNat.inj h

theorem map_fst_filter_zipIdx (p : α → Bool) (xs : List α) :
    (xs.zipIdx.filter fun entry => p entry.1).map Prod.fst = xs.filter p := by
  rw [← Function.comp_def p Prod.fst, ← List.filter_map, List.zipIdx_map_fst]

theorem eraseAxes_eq_filter_of_iff {p : α → Prop} [DecidablePred p]
    (h : ∀ (n : ℕ) (x : α), xs[n]? = some x → ((n : ℤ) ∉ axes ↔ p x)) :
    eraseAxes axes xs = xs.filter p := by
  rw [← map_fst_filter_zipIdx, eraseAxes]
  refine congrArg (List.map Prod.fst) (List.filter_congr fun entry hentry => ?_)
  rw [decide_eq_decide]
  exact h entry.2 entry.1 (List.mem_zipIdx_iff_getElem?.mp hentry)

theorem eraseAxes_eq_filter [DecidableEq α] (h : xs.Nodup) :
    eraseAxes axes xs = xs.filter fun x => x ∉ selectAxes axes xs := by
  refine eraseAxes_eq_filter_of_iff fun n x hx => not_congr ?_
  rw [mem_selectAxes]
  constructor
  · exact fun hi => ⟨n, hi, hx⟩
  · rintro ⟨i, hi, hix⟩
    cases i with
    | ofNat m =>
      have hm := (List.getElem?_eq_some_iff.mp hix).1
      rwa [← (List.getElem?_inj hm h).mp (hix.trans hx.symm)]
    | negSucc m => cases hix

theorem eraseAxes_allAxes (axes : List ℤ) (rank : ℕ) :
    eraseAxes axes (allAxes rank) = (allAxes rank).filter fun k => k ∉ axes := by
  refine eraseAxes_eq_filter_of_iff fun n k hk => ?_
  rw [← entryAt?_natCast, entryAt?_allAxes_eq_some] at hk
  rw [hk.1]

theorem map_entryAt?_allAxes (xs : List α) :
    (allAxes xs.length).map (entryAt? xs) = xs.map some := by
  apply List.ext_getElem
  · simp [allAxes]
  · intro n hn hn'
    rw [List.length_map] at hn'
    simp [allAxes, entryAt?, hn']

theorem map_some_eraseAxes (axes : List ℤ) (xs : List α) :
    (eraseAxes axes xs).map some = (eraseAxes axes (allAxes xs.length)).map (entryAt? xs) := by
  rw [map_eraseAxes, ← map_entryAt?_allAxes, map_eraseAxes]

/-- Erasing in two stages is erasing once, where the axes of the second stage are those that are
left at its positions. -/
theorem eraseAxes_eraseAxes (axes more : List ℤ) (xs : List α) :
    eraseAxes more (eraseAxes axes xs) =
      eraseAxes (axes ++ selectAxes more (eraseAxes axes (allAxes xs.length))) xs := by
  have hkept : eraseAxes more (eraseAxes axes (allAxes xs.length)) =
      eraseAxes (axes ++ selectAxes more (eraseAxes axes (allAxes xs.length)))
        (allAxes xs.length) := by
    have hnodup : (eraseAxes axes (allAxes xs.length)).Nodup :=
      (eraseAxes_sublist _ _).nodup (nodup_allAxes _)
    rw [eraseAxes_eq_filter hnodup]
    simp only [eraseAxes_allAxes, List.filter_filter, List.mem_append, not_or, Bool.decide_and]
    exact List.filter_congr fun k _ => Bool.and_comm _ _
  apply List.map_injective_iff.mpr (Option.some_injective α)
  rw [map_eraseAxes, map_some_eraseAxes, ← map_eraseAxes, hkept, ← map_some_eraseAxes]

/-- The index of an axis after others are gone: one less for each of them before it. -/
def indexAfter (gone : List ℤ) (axis : ℤ) : ℤ := axis - gone.countP (· < axis)

/-- The axes are positions of a shape of the given rank, none of them listed twice. -/
structure DistinctAxes (rank : ℕ) (axes : List ℤ) : Prop where
  nodup : axes.Nodup
  nonneg : ∀ i ∈ axes, 0 ≤ i
  lt : ∀ i ∈ axes, i < rank

instance (rank : ℕ) (axes : List ℤ) : Decidable (DistinctAxes rank axes) :=
  decidable_of_iff (axes.Nodup ∧ (∀ i ∈ axes, 0 ≤ i) ∧ ∀ i ∈ axes, i < rank)
    ⟨fun h => ⟨h.1, h.2.1, h.2.2⟩, fun h => ⟨h.nodup, h.nonneg, h.lt⟩⟩

theorem DistinctAxes.within {rank : ℕ} {axes : List ℤ} (h : DistinctAxes rank axes) :
    ∀ i ∈ axes, 0 ≤ i ∧ i < rank :=
  fun i hi => ⟨h.nonneg i hi, h.lt i hi⟩

theorem countP_lt_add_one (gone : List ℤ) (n : ℤ) :
    gone.countP (· < n + 1) = gone.countP (· < n) + gone.count n := by
  induction gone with
  | nil => rfl
  | cons i gone ih =>
    simp only [List.countP_cons, List.count_cons, ih, decide_eq_true_eq, beq_iff_eq]
    split <;> split <;> split <;> omega

theorem length_eraseAxes (hnodup : gone.Nodup) (hnonneg : ∀ i ∈ gone, 0 ≤ i) (xs : List α) :
    ((eraseAxes gone xs).length : ℤ) = indexAfter gone xs.length := by
  induction xs using List.reverseRecOn with
  | nil =>
    have hcount : gone.countP (· < 0) = 0 := by
      rw [List.countP_eq_zero]
      exact fun i hi => by simpa using hnonneg i hi
    simp [indexAfter, hcount]
  | append_singleton xs x ih =>
    have hstep := countP_lt_add_one gone xs.length
    rw [hnodup.count] at hstep
    simp only [indexAfter, eraseAxes_concat, List.length_append, List.length_singleton,
      Int.natCast_add, Int.natCast_one] at ih ⊢
    by_cases h : (xs.length : ℤ) ∈ gone
    · rw [if_pos h] at hstep ⊢
      simp only [List.length_nil]
      omega
    · rw [if_neg h] at hstep ⊢
      simp only [List.length_singleton]
      omega

theorem DistinctAxes.length_eraseAxes (h : DistinctAxes xs.length gone) :
    ((eraseAxes gone xs).length : ℤ) = xs.length - gone.length := by
  have hcount : gone.countP (· < (xs.length : ℤ)) = gone.length := by
    rw [List.countP_eq_length]
    exact fun i hi => by simpa using h.lt i hi
  rw [TensorShape.length_eraseAxes h.nodup h.nonneg, indexAfter, hcount]

theorem indexAfter_nonneg (hnodup : gone.Nodup) (hnonneg : ∀ i ∈ gone, 0 ≤ i) {i : ℤ}
    (hi : 0 ≤ i) : 0 ≤ indexAfter gone i := by
  obtain ⟨n, rfl⟩ := Int.eq_ofNat_of_zero_le hi
  have hlen := length_eraseAxes hnodup hnonneg (List.replicate n ())
  rw [List.length_replicate] at hlen
  exact hlen ▸ Int.natCast_nonneg _

theorem entryAt?_eraseAxes (hnodup : gone.Nodup) (hnonneg : ∀ i ∈ gone, 0 ≤ i) {i : ℤ}
    (hi : 0 ≤ i) (hlt : i < xs.length) (hkept : i ∉ gone) :
    entryAt? (eraseAxes gone xs) (indexAfter gone i) = entryAt? xs i := by
  obtain ⟨n, rfl⟩ := Int.eq_ofNat_of_zero_le hi
  have hn : n < xs.length := Int.ofNat_lt.mp hlt
  have hlen : (xs.take n).length = n := List.length_take_of_le (Nat.le_of_lt hn)
  have hsplit : xs = (xs.take n ++ [xs[n]]) ++ xs.drop (n + 1) := by simp
  -- The new position is the number of entries left before the old one.
  have hindex : indexAfter gone n = ((eraseAxes gone (xs.take n)).length : ℤ) := by
    rw [length_eraseAxes hnodup hnonneg, hlen]
  have hentry : entryAt? (eraseAxes gone (xs.take n) ++ [xs[n]]) (indexAfter gone n) =
      some xs[n] := by
    rw [hindex, entryAt?_natCast, List.getElem?_concat_length]
  rw [entryAt?_natCast, List.getElem?_eq_getElem hn]
  conv_lhs => rw [hsplit, eraseAxes_append, eraseAxes_concat, hlen, if_neg hkept]
  exact entryAt?_append_left hentry

theorem indexAfter_lt_length (hnodup : gone.Nodup) (hnonneg : ∀ i ∈ gone, 0 ≤ i) {i : ℤ}
    (hi : 0 ≤ i) (hlt : i < xs.length) (hkept : i ∉ gone) :
    indexAfter gone i < (eraseAxes gone xs).length := by
  refine (entryAt?_isSome.mp ?_).2
  rw [entryAt?_eraseAxes hnodup hnonneg hi hlt hkept]
  exact entryAt?_isSome.mpr ⟨hi, hlt⟩

theorem selectAxes_map_indexAfter (hgone : DistinctAxes xs.length gone)
    (hmore : ∀ i ∈ more, 0 ≤ i ∧ i < xs.length) (hkept : ∀ i ∈ more, i ∉ gone) :
    selectAxes (more.map (indexAfter gone)) (eraseAxes gone xs) = selectAxes more xs := by
  rw [selectAxes, List.filterMap_map]
  refine List.filterMap_congr fun i hi => ?_
  obtain ⟨hnonneg, hlt⟩ := hmore i hi
  exact entryAt?_eraseAxes hgone.nodup hgone.nonneg hnonneg hlt (hkept i hi)

theorem selectAxes_allAxes_eq_self {rank : ℕ} (h : ∀ i ∈ axes, 0 ≤ i ∧ i < rank) :
    selectAxes axes (allAxes rank) = axes := by
  refine (List.filterMap_congr fun i hi => ?_).trans List.filterMap_some
  exact entryAt?_allAxes_eq_some.mpr ⟨rfl, h i hi⟩

/-- Erasing further axes at their indices after the first ones erases all of them. -/
theorem eraseAxes_map_indexAfter (hgone : DistinctAxes xs.length gone)
    (hmore : DistinctAxes xs.length more) (hdisj : ∀ i ∈ more, i ∉ gone) :
    eraseAxes (more.map (indexAfter gone)) (eraseAxes gone xs) = eraseAxes (gone ++ more) xs := by
  have hlen : (allAxes xs.length).length = xs.length := length_allAxes xs.length
  have hselect := selectAxes_map_indexAfter (hlen.symm ▸ hgone) (hlen.symm ▸ hmore.within) hdisj
  rw [eraseAxes_eraseAxes, hselect, selectAxes_allAxes_eq_self hmore.within]

end TensorShape
