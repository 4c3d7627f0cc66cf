import TensorShape.Proofs.Broadcast.Join

/-! # Entries that agree

A blank entry yields to any other. The entries of a list agree if all that are not blank are equal,
and then they have a common entry. Larger lists are compared through the common entries of their
parts, and two dimensions or names that do not clash have the larger or the first one in common.
-/

namespace TensorShape

variable {α : Type} {blank c d e : α} {xs ys : List α}

/-- All entries other than the blank one are equal. -/
def Agree (blank : α) (xs : List α) : Prop :=
  ∀ x ∈ xs, ∀ y ∈ xs, x ≠ blank → y ≠ blank → x = y

/-- The one entry other than the blank one, or the blank one where there is no other. -/
structure IsCommon (blank : α) (xs : List α) (c : α) : Prop where
  eq_of_ne : ∀ x ∈ xs, x ≠ blank → c = x
  eq_blank : (∀ x ∈ xs, x = blank) → c = blank

theorem Agree.mono (h : Agree blank ys) (hs : xs ⊆ ys) : Agree blank xs :=
  fun x hx y hy => h x (hs hx) y (hs hy)

namespace IsCommon

theorem singleton (blank c : α) : IsCommon blank [c] c :=
  ⟨fun _ hx _ => (List.mem_singleton.mp hx).symm, fun h => h c (List.mem_singleton_self c)⟩

theorem pair_blank (blank c : α) : IsCommon blank [c, blank] c := by
  refine ⟨fun x hx hxb => ?_, fun h => h c (by simp)⟩
  rcases List.mem_pair.mp hx with rfl | rfl
  · rfl
  · exact absurd rfl hxb

theorem agree (h : IsCommon blank xs c) : Agree blank xs :=
  fun x hx y hy hxb hyb => (h.eq_of_ne x hx hxb).symm.trans (h.eq_of_ne y hy hyb)

theorem mem_of_ne (h : IsCommon blank xs c) (hc : c ≠ blank) : c ∈ xs := by
  by_contra hn
  refine hc (h.eq_blank fun x hx => by_contra fun hxb => hn ?_)
  rw [h.eq_of_ne x hx hxb]
  exact hx

theorem unique (hc : IsCommon blank xs c) (hd : IsCommon blank xs d) : c = d := by
  by_cases h : c = blank
  · by_contra hne
    have hdb : d ≠ blank := fun he => hne (h.trans he.symm)
    exact hne (hc.eq_of_ne d (hd.mem_of_ne hdb) hdb)
  · exact (hd.eq_of_ne c (hc.mem_of_ne h) h).symm

/-- Two lists agree together exactly if their common entries do. -/
theorem agree_append_iff (hx : IsCommon blank xs c) (hy : IsCommon blank ys d) :
    Agree blank (xs ++ ys) ↔ ¬ (c ≠ blank ∧ d ≠ blank ∧ c ≠ d) := by
  constructor
  · rintro h ⟨hc, hd, hne⟩
    exact hne (h c (List.mem_append_left _ (hx.mem_of_ne hc)) d
      (List.mem_append_right _ (hy.mem_of_ne hd)) hc hd)
  · intro h x hxm y hym hxb hyb
    have hcd : ∀ z ∈ xs, ∀ w ∈ ys, z ≠ blank → w ≠ blank → z = w := by
      intro z hz w hw hzb hwb
      have hcz := hx.eq_of_ne z hz hzb
      have hdw := hy.eq_of_ne w hw hwb
      by_contra hne
      exact h ⟨hcz ▸ hzb, hdw ▸ hwb, fun he => hne (hcz.symm.trans (he.trans hdw))⟩
    rcases List.mem_append.mp hxm with hxm | hxm <;> rcases List.mem_append.mp hym with hym | hym
    · exact hx.agree x hxm y hym hxb hyb
    · exact hcd x hxm y hym hxb hyb
    · exact (hcd y hym x hxm hyb hxb).symm
    · exact hy.agree x hxm y hym hxb hyb

theorem append (hx : IsCommon blank xs c) (hy : IsCommon blank ys d)
    (h : IsCommon blank [c, d] e) : IsCommon blank (xs ++ ys) e := by
  constructor
  · intro x hm hxb
    rcases List.mem_append.mp hm with hm | hm
    · have hcx := hx.eq_of_ne x hm hxb
      exact (h.eq_of_ne c (by simp) (hcx ▸ hxb)).trans hcx
    · have hdx := hy.eq_of_ne x hm hxb
      exact (h.eq_of_ne d (by simp) (hdx ▸ hxb)).trans hdx
  · intro hb
    apply h.eq_blank
    have hc := hx.eq_blank fun x hm => hb x (List.mem_append_left _ hm)
    have hd := hy.eq_blank fun x hm => hb x (List.mem_append_right _ hm)
    simp [hc, hd]

theorem congr_mem (h : IsCommon blank xs c) (hm : ∀ x, x ∈ ys ↔ x ∈ xs) : IsCommon blank ys c :=
  ⟨fun x hx => h.eq_of_ne x ((hm x).mp hx), fun hb => h.eq_blank fun x hx => hb x ((hm x).mpr hx)⟩

end IsCommon

theorem isCommon_max {a b : ℤ} (ha : 1 ≤ a) (hb : 1 ≤ b) (h : ¬ Clashing (a, b)) :
    IsCommon 1 [a, b] (max a b) := by
  unfold Clashing at h
  constructor
  · simp only [List.forall_mem_cons, List.not_mem_nil, false_imp_iff, forall_const, and_true]
    constructor <;> omega
  · simp only [List.forall_mem_cons, List.not_mem_nil, false_imp_iff, forall_const, and_true]
    omega

theorem isCommon_or {m n : AxisName} (h : ¬ AxisName.Conflicting (m, n)) :
    IsCommon none [m, n] (m.or n) := by
  cases m with
  | none => cases n <;> constructor <;> simp
  | some s =>
    cases n with
    | none => constructor <;> simp
    | some t =>
      have hst : s = t := by_contra fun hne => h ⟨by simp, by simp, by simpa using hne⟩
      constructor <;> simp [hst]

end TensorShape
