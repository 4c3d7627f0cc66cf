import TensorShape.Proofs.Padding

/-! # Elements of a padded axis

A padded axis has copies of a filling before its first element, between each two neighbours and
after its last element. The size of a padded axis is the number of elements that it then has, with
one exception: an axis without elements has no neighbours, and its size is less by the interior
padding.
-/

namespace TensorShape

section Filling

variable {α : Type}

/-- The elements with copies of a filling between each two neighbours. -/
def spread (fill : α) (copies : ℕ) (xs : List α) : List α :=
  (List.replicate copies fill).intercalate (xs.map fun x => [x])

theorem spread_cons_cons (fill : α) (copies : ℕ) (x y : α) (xs : List α) :
    spread fill copies (x :: y :: xs) =
      x :: (List.replicate copies fill ++ spread fill copies (y :: xs)) := by
  simp only [spread, List.map_cons, List.intercalate_cons_cons, List.nil_append, List.cons_append]

theorem length_spread (fill : α) (copies : ℕ) (xs : List α) :
    (spread fill copies xs).length = xs.length + (xs.length - 1) * copies := by
  induction xs with
  | nil => simp [spread]
  | cons x xs ih =>
    cases xs with
    | nil => simp [spread]
    | cons y xs =>
      rw [spread_cons_cons, List.length_cons, List.length_append, List.length_replicate, ih]
      simp only [List.length_cons, Nat.add_sub_cancel]
      ring

end Filling

namespace Padding

variable {α : Type} {p : Padding}

structure Nonneg (p : Padding) : Prop where
  low : 0 ≤ p.low
  high : 0 ≤ p.high
  interior : 0 ≤ p.interior

instance (p : Padding) : Decidable p.Nonneg :=
  decidable_of_iff (0 ≤ p.low ∧ 0 ≤ p.high ∧ 0 ≤ p.interior)
    ⟨fun h => ⟨h.1, h.2.1, h.2.2⟩, fun h => ⟨h.low, h.high, h.interior⟩⟩

/-- The elements of an axis after padding, where what is added are copies of a filling. -/
def filled (p : Padding) (fill : α) (xs : List α) : List α :=
  List.replicate p.low.toNat fill ++ spread fill p.interior.toNat xs ++
    List.replicate p.high.toNat fill

theorem length_filled (h : p.Nonneg) (fill : α) (xs : List α) :
    ((p.filled fill xs).length : ℤ) =
      xs.length + (xs.length - 1 : ℕ) * p.interior + p.low + p.high := by
  have hlow := Int.toNat_of_nonneg h.low
  have hhigh := Int.toNat_of_nonneg h.high
  have hinterior := Int.toNat_of_nonneg h.interior
  simp only [filled, List.length_append, List.length_replicate, length_spread, Int.natCast_add,
    Int.natCast_mul, hlow, hhigh, hinterior]
  ring

theorem extend_eq_length_filled (h : p.Nonneg) (fill : α) {xs : List α} (hne : xs ≠ []) :
    p.extend xs.length = (p.filled fill xs).length := by
  have hpos := List.length_pos_iff.mpr hne
  rw [length_filled h, extend, Int.natCast_sub hpos]
  rfl

theorem extend_zero_eq (h : p.Nonneg) (fill : α) :
    p.extend 0 = (p.filled fill []).length - p.interior := by
  -- For no elements the formula counts minus one pair of neighbours, where the list has none.
  rw [length_filled h, extend]
  simp only [List.length_nil, Nat.zero_sub, Int.natCast_zero]
  ring

theorem extend_eq_length_filled_iff (h : p.Nonneg) (fill : α) (xs : List α) :
    p.extend xs.length = (p.filled fill xs).length ↔ 1 ≤ (xs.length : ℤ) ∨ p.interior = 0 := by
  cases xs with
  | nil =>
    have hzero := extend_zero_eq h fill
    simp only [List.length_nil, Int.natCast_zero] at hzero ⊢
    omega
  | cons x xs =>
    refine iff_of_true (extend_eq_length_filled h fill (List.cons_ne_nil x xs)) (Or.inl ?_)
    simp

/-- Only an axis without elements is padded below zero. -/
theorem extend_neg_iff (h : p.Nonneg) {size : ℤ} (hsize : 0 ≤ size) :
    p.extend size < 0 ↔ size = 0 ∧ p.low + p.high < p.interior := by
  obtain ⟨hlow, hhigh, hinterior⟩ := h
  rcases hsize.eq_or_lt with rfl | hpos
  · rw [extend]
    omega
  · have hinner : 0 ≤ (size - 1) * p.interior := Int.mul_nonneg (by omega) hinterior
    rw [extend]
    omega

end Padding

/-- Where nothing is taken away, the size of a padded axis is the number of its elements exactly if
it had an element before or has no interior padding. For an axis without elements the size is less
by the interior padding, and it is negative only where that is more than both edges. -/
theorem padding_counts_elements {dims : Shape} {paddings : List Padding}
    (hlen : paddings.length = dims.length) (hdims : ∀ d ∈ dims, 0 ≤ d)
    (hpaddings : ∀ p ∈ paddings, p.Nonneg) :
    ∃ padded, padEntries dims (paddings.map Padding.toList) = pure padded ∧
      padded.length = dims.length ∧
      ∀ (i : ℕ) (d : ℤ) (p : Padding), dims[i]? = some d → paddings[i]? = some p →
        ∃ size, padded[i]? = some size ∧
          (∀ {α : Type} (fill : α) (xs : List α), (xs.length : ℤ) = d →
            (size = (p.filled fill xs).length ↔ 1 ≤ d ∨ p.interior = 0) ∧
            (d = 0 → size = (p.filled fill xs).length - p.interior)) ∧
          (size < 0 ↔ d = 0 ∧ p.low + p.high < p.interior) := by
  refine ⟨_, padEntries_eq_pure hlen, by rw [List.length_zipWith, hlen, Nat.min_self], ?_⟩
  intro i d p hd hp
  have hnonneg := hpaddings p (List.mem_of_getElem? hp)
  refine ⟨p.extend d, List.getElem?_zipWith_eq_some.mpr ⟨p, d, hp, hd, rfl⟩, ?_,
    Padding.extend_neg_iff hnonneg (hdims d (List.mem_of_getElem? hd))⟩
  rintro α fill xs rfl
  refine ⟨Padding.extend_eq_length_filled_iff hnonneg fill xs, fun hzero => ?_⟩
  obtain rfl := List.length_eq_zero_iff.mp (Int.natCast_eq_zero.mp hzero)
  exact Padding.extend_zero_eq hnonneg fill

/-- The outer axes have no element. The interior padding of the first one is more than its edges,
that of the last one is not; only the axis in the middle has the size that its elements tell. -/
theorem padding_counts_elements_of_empty_axes :
    let dims : Shape := [0, 3, 0]
    let paddings : List Padding := [⟨1, 0, 3⟩, ⟨1, 2, 2⟩, ⟨2, 1, 1⟩]
    (∀ d ∈ dims, 0 ≤ d) ∧ (∀ p ∈ paddings, p.Nonneg) ∧
      padEntries dims (paddings.map Padding.toList) = pure [-2, 10, 2] ∧
      (⟨1, 2, 2⟩ : Padding).filled 0 [5, 6, 7] = [0, 5, 0, 0, 6, 0, 0, 7, 0, 0] ∧
      (10 : ℤ) = ((⟨1, 2, 2⟩ : Padding).filled 0 [5, 6, 7]).length ∧
      (-2 : ℤ) = ((⟨1, 0, 3⟩ : Padding).filled 0 []).length - 3 ∧
      (2 : ℤ) ≠ ((⟨2, 1, 1⟩ : Padding).filled 0 []).length := by
  intro dims paddings
  have hdims : ∀ d ∈ dims, 0 ≤ d := by decide
  have hpaddings : ∀ p ∈ paddings, p.Nonneg := by decide
  have hresult : (padEntries dims (paddings.map Padding.toList)).result = .ok [-2, 10, 2] :=
    Outcome.result_eq_ok_of_answer? (by decide +kernel)
  obtain ⟨padded, hpadded, -, haxis⟩ := padding_counts_elements rfl hdims hpaddings
  obtain rfl := Outcome.result_pure_eq_ok.mp (hpadded ▸ hresult)
  obtain ⟨first, hsize, hfirst, -⟩ := haxis 0 0 ⟨1, 0, 3⟩ rfl rfl
  obtain rfl : (-2 : ℤ) = first := Option.some.inj hsize
  obtain ⟨middle, hsize, hmiddle, -⟩ := haxis 1 3 ⟨1, 2, 2⟩ rfl rfl
  obtain rfl : (10 : ℤ) = middle := Option.some.inj hsize
  obtain ⟨last, hsize, hlast, -⟩ := haxis 2 0 ⟨2, 1, 1⟩ rfl rfl
  obtain rfl : (2 : ℤ) = last := Option.some.inj hsize
  exact ⟨hdims, hpaddings, hpadded, by decide, (hmiddle 0 [5, 6, 7] rfl).1.mpr (by decide),
    (hfirst 0 [] rfl).2 rfl, mt (hlast 0 [] rfl).1.mp (by decide)⟩

end TensorShape
