import TensorShape.Proofs.Broadcast.Agreement

/-! # Broadcasting many shapes

Many shapes are broadcast by a tree of pairwise broadcasts. At each position the entries of all the
shapes agree, and then every tree finds their common entry, or they do not, and then every tree
fails. Order and grouping play no role.
-/

namespace TensorShape

inductive BroadcastTree where
  | leaf (s : NamedShape)
  | node (l r : BroadcastTree)

namespace BroadcastTree

def leaves : BroadcastTree → List NamedShape
  | leaf s => [s]
  | node l r => l.leaves ++ r.leaves

def eval : BroadcastTree → Outcome NamedShape
  | leaf s => pure s
  | node l r => do
    let s ← l.eval
    let t ← r.eval
    broadcast s.dims s.given t.dims t.given

end BroadcastTree

namespace NamedShape

/-- One name for each axis, and no axis without elements. -/
structure Positive (s : NamedShape) : Prop where
  aligned : s.Aligned
  one_le : ∀ d ∈ s.dims, 1 ≤ d

instance (s : NamedShape) : Decidable s.Positive :=
  decidable_of_iff (s.names.length = s.dims.length ∧ ∀ d ∈ s.dims, 1 ≤ d)
    ⟨fun h => ⟨h.1, h.2⟩, fun h => ⟨h.aligned, h.one_le⟩⟩

def scalar : NamedShape := ⟨[], []⟩

/-- At every position counted from the end, the dimensions other than one are equal, and so are the
names that are there. -/
structure Compatible (ss : List NamedShape) : Prop where
  dims : ∀ i, Agree 1 (ss.map fun s => fromEnd 1 s.dims i)
  names : ∀ i, Agree none (ss.map fun s => fromEnd none s.names i)

/-- A shape of the largest rank among the given ones that has, at every position counted from the
end, their common dimension other than one, or else one, and their common name, if any. -/
structure IsCommonShape (ss : List NamedShape) (r : NamedShape) : Prop where
  aligned : r.Aligned
  rank_le : ∀ s ∈ ss, s.rank ≤ r.rank
  exists_rank : ∃ s ∈ ss, s.rank = r.rank
  dims : ∀ i, IsCommon 1 (ss.map fun s => fromEnd 1 s.dims i) (fromEnd 1 r.dims i)
  names : ∀ i, IsCommon none (ss.map fun s => fromEnd none s.names i) (fromEnd none r.names i)

variable {s t a b r : NamedShape} {ss ts : List NamedShape}

theorem Positive.one_le_fromEnd (h : s.Positive) (i : ℕ) : 1 ≤ fromEnd 1 s.dims i := by
  rcases fromEnd_eq_or_mem 1 s.dims i with hi | hi
  · exact Int.le_of_eq hi.symm
  · exact h.one_le _ hi

theorem positive_scalar : scalar.Positive := ⟨rfl, by simp [scalar]⟩

theorem Compatible.mono (h : Compatible ts) (hs : ss ⊆ ts) : Compatible ss :=
  ⟨fun i => (h.dims i).mono (List.map_subset _ hs),
    fun i => (h.names i).mono (List.map_subset _ hs)⟩

namespace IsCommonShape

theorem singleton (h : s.Aligned) : IsCommonShape [s] s :=
  ⟨h, by simp, by simp, fun _ => .singleton _ _, fun _ => .singleton _ _⟩

theorem pair_scalar (h : s.Aligned) : IsCommonShape [s, scalar] s :=
  ⟨h, by simp [scalar, LabelledShape.rank], by simp, fun _ => .pair_blank _ _,
    fun _ => .pair_blank _ _⟩

theorem compatible (h : IsCommonShape ss r) : Compatible ss :=
  ⟨fun i => (h.dims i).agree, fun i => (h.names i).agree⟩

theorem congr_mem (h : IsCommonShape ss r) (hm : ∀ s, s ∈ ts ↔ s ∈ ss) : IsCommonShape ts r where
  aligned := h.aligned
  rank_le s hs := h.rank_le s ((hm s).mp hs)
  exists_rank := by simpa only [hm] using h.exists_rank
  dims i := (h.dims i).congr_mem fun x => by simp only [List.mem_map, hm]
  names i := (h.names i).congr_mem fun x => by simp only [List.mem_map, hm]

theorem unique (ha : IsCommonShape ss a) (hb : IsCommonShape ss b) : a = b := by
  obtain ⟨s, hs, hsa⟩ := ha.exists_rank
  obtain ⟨t, ht, htb⟩ := hb.exists_rank
  have hle := hb.rank_le s hs
  have hge := ha.rank_le t ht
  exact eq_of_fromEnd ha.aligned hb.aligned (by omega) (fun i => (ha.dims i).unique (hb.dims i))
    fun i => (ha.names i).unique (hb.names i)

theorem positive (h : IsCommonShape ss r) (hp : ∀ s ∈ ss, s.Positive) : r.Positive := by
  refine ⟨h.aligned, fun d hd => ?_⟩
  obtain ⟨i, -, rfl⟩ := exists_fromEnd_of_mem 1 hd
  by_cases hone : fromEnd 1 r.dims i = 1
  · exact Int.le_of_eq hone.symm
  · obtain ⟨s, hs, he⟩ := List.mem_map.mp ((h.dims i).mem_of_ne hone)
    rw [← he]
    exact (hp s hs).one_le_fromEnd i

theorem compatible_append_iff (ha : IsCommonShape ss a) (hb : IsCommonShape ts b) :
    Compatible (ss ++ ts) ↔ a.Fits b := by
  have hd i := (ha.dims i).agree_append_iff (hb.dims i)
  have hn i := (ha.names i).agree_append_iff (hb.names i)
  simp only [← List.map_append] at hd hn
  constructor
  · intro h
    exact ⟨fun i => (hd i).mp (h.dims i), fun i => (hn i).mp (h.names i)⟩
  · intro h
    exact ⟨fun i => (hd i).mpr (h.dims i), fun i => (hn i).mpr (h.names i)⟩

theorem append (ha : IsCommonShape ss a) (hb : IsCommonShape ts b) (hpa : a.Positive)
    (hpb : b.Positive) (h : a.Fits b) : IsCommonShape (ss ++ ts) (a.combine b) where
  aligned := aligned_combine ha.aligned hb.aligned
  rank_le s hs := by
    rw [rank_combine]
    rcases List.mem_append.mp hs with hs | hs
    · exact Nat.le_trans (ha.rank_le s hs) (Nat.le_max_left _ _)
    · exact Nat.le_trans (hb.rank_le s hs) (Nat.le_max_right _ _)
  exists_rank := by
    rw [rank_combine]
    rcases Nat.le_total a.rank b.rank with hle | hle
    · obtain ⟨t, ht, htb⟩ := hb.exists_rank
      exact ⟨t, List.mem_append_right _ ht, by omega⟩
    · obtain ⟨s, hs, hsa⟩ := ha.exists_rank
      exact ⟨s, List.mem_append_left _ hs, by omega⟩
  dims i := by
    rw [List.map_append, fromEnd_combine_dims]
    exact (ha.dims i).append (hb.dims i)
      (isCommon_max (hpa.one_le_fromEnd i) (hpb.one_le_fromEnd i) (h.dims i))
  names i := by
    rw [List.map_append, fromEnd_combine_names]
    exact (ha.names i).append (hb.names i) (isCommon_or (h.names i))

end IsCommonShape

end NamedShape

open NamedShape

namespace BroadcastTree

variable {t u : BroadcastTree} {r : NamedShape} {ss : List NamedShape}

theorem result_eval_node {l r : BroadcastTree} {c : NamedShape} :
    (node l r).eval.result = .ok c ↔ ∃ a b, l.eval.result = .ok a ∧ r.eval.result = .ok b ∧
      (broadcast a.dims a.given b.dims b.given).result = .ok c := by
  simp only [eval, Outcome.result_bind_eq_ok]
  constructor
  · rintro ⟨a, ha, b, hb, hc⟩
    exact ⟨a, b, ha, hb, hc⟩
  · rintro ⟨a, b, ha, hb, hc⟩
    exact ⟨a, ha, b, hb, hc⟩

/-- A tree that succeeds finds the common shape of its leaves. -/
theorem isCommonShape_of_eval (hp : ∀ s ∈ t.leaves, s.Positive) (h : t.eval.result = .ok r) :
    IsCommonShape t.leaves r := by
  induction t generalizing r with
  | leaf s =>
    obtain rfl := Outcome.result_pure_eq_ok.mp h
    exact .singleton (hp s (List.mem_singleton_self s)).aligned
  | node left right ihl ihr =>
    obtain ⟨hpl, hpr⟩ := List.forall_mem_append.mp hp
    obtain ⟨a, b, hla, hrb, hab⟩ := result_eval_node.mp h
    have ha := ihl hpl hla
    have hb := ihr hpr hrb
    rw [broadcast_eq_join ha.aligned.assign_given hb.aligned.assign_given,
      result_join_eq_ok ha.aligned hb.aligned] at hab
    obtain ⟨hfit, rfl⟩ := hab
    exact ha.append hb (ha.positive hpl) (hb.positive hpr) hfit

/-- A tree of compatible shapes succeeds, and leaves no record. -/
theorem eval_of_compatible (hp : ∀ s ∈ t.leaves, s.Positive) (hc : Compatible t.leaves) :
    ∃ r, t.eval = pure r := by
  induction t with
  | leaf s => exact ⟨s, rfl⟩
  | node left right ihl ihr =>
    obtain ⟨hpl, hpr⟩ := List.forall_mem_append.mp hp
    obtain ⟨a, hla⟩ := ihl hpl (hc.mono (List.subset_append_left _ _))
    obtain ⟨b, hrb⟩ := ihr hpr (hc.mono (List.subset_append_right _ _))
    have ha := isCommonShape_of_eval hpl (hla ▸ Outcome.result_pure a)
    have hb := isCommonShape_of_eval hpr (hrb ▸ Outcome.result_pure b)
    refine ⟨a.combine b, ?_⟩
    rw [eval, hla, pure_bind, hrb, pure_bind,
      broadcast_eq_join ha.aligned.assign_given hb.aligned.assign_given]
    exact join_eq_pure ha.aligned hb.aligned ((ha.compatible_append_iff hb).mp hc)

theorem eval_eq_pure (hp : ∀ s ∈ t.leaves, s.Positive) (h : IsCommonShape t.leaves r) :
    t.eval = pure r := by
  obtain ⟨r', hr'⟩ := eval_of_compatible hp h.compatible
  rw [hr', h.unique (isCommonShape_of_eval hp (hr' ▸ Outcome.result_pure r'))]

/-- Trees over the same shapes, in any order and grouping, succeed exactly if the shapes are
compatible, and then all come to the same common shape without leaving a record. The shape without
axes is neutral. -/
theorem eval_independent_of_grouping (hp : ∀ s ∈ ss, s.Positive) :
    (∀ t : BroadcastTree, t.leaves.Perm ss → ((∃ r, t.eval.result = .ok r) ↔ Compatible ss)) ∧
    (∀ (t u : BroadcastTree) (r : NamedShape), t.leaves.Perm ss → u.leaves.Perm ss →
      t.eval.result = .ok r → u.eval = pure r ∧ IsCommonShape ss r) ∧
    ∀ s : NamedShape, s.Positive →
      (node (leaf s) (leaf scalar)).eval = pure s ∧ (node (leaf scalar) (leaf s)).eval = pure s := by
  have hpt : ∀ t : BroadcastTree, t.leaves.Perm ss → ∀ s ∈ t.leaves, s.Positive :=
    fun t ht s hs => hp s (ht.mem_iff.mp hs)
  have hcommon : ∀ (t : BroadcastTree) (r : NamedShape), t.leaves.Perm ss → t.eval.result = .ok r →
      IsCommonShape ss r :=
    fun t r ht h => (isCommonShape_of_eval (hpt t ht) h).congr_mem fun _ => ht.mem_iff.symm
  refine ⟨fun t ht => ⟨?_, fun hc => ?_⟩, fun t u r ht hu h => ?_, fun s hs => ?_⟩
  · rintro ⟨r, h⟩
    exact (hcommon t r ht h).compatible
  · obtain ⟨r, h⟩ := eval_of_compatible (hpt t ht) (hc.mono ht.subset)
    exact ⟨r, h ▸ Outcome.result_pure r⟩
  · have hr := hcommon t r ht h
    exact ⟨eval_eq_pure (hpt u hu) (hr.congr_mem fun _ => hu.mem_iff), hr⟩
  · have hps : ∀ a ∈ [s, scalar], a.Positive := by
      rintro a ha
      rcases List.mem_pair.mp ha with rfl | rfl
      · exact hs
      · exact positive_scalar
    have hcs : IsCommonShape [s, scalar] s := .pair_scalar hs.aligned
    exact ⟨eval_eq_pure hps hcs, eval_eq_pure (fun a ha => hps a (List.mem_pair.mpr
      (List.mem_pair.mp ha).symm)) (hcs.congr_mem fun _ => (List.Perm.swap _ _ _).mem_iff)⟩

/-- Three shapes of ranks two, one and three, grouped from the left and, reversed, from the
right. -/
theorem eval_three_independent_of_grouping :
    let a : NamedShape := ⟨[2, 1], [some "row", none]⟩
    let b : NamedShape := ⟨[3], [some "column"]⟩
    let c : NamedShape := ⟨[1, 1, 3], [none, none, none]⟩
    let r : NamedShape := ⟨[1, 2, 3], [none, some "row", some "column"]⟩
    (node (node (leaf a) (leaf b)) (leaf c)).eval.result = .ok r ∧
      (node (leaf c) (node (leaf b) (leaf a))).eval = pure r := by
  intro a b c r
  have hp : ∀ s ∈ [a, b, c], s.Positive := by decide
  have h : (node (node (leaf a) (leaf b)) (leaf c)).eval.result = .ok r :=
    Outcome.result_eq_ok_of_answer? (by decide +kernel)
  exact ⟨h, ((eval_independent_of_grouping hp).2.1 _ (node (leaf c) (node (leaf b) (leaf a))) r
    (.refl _) (List.reverse_perm [a, b, c]) h).1⟩

end BroadcastTree

end TensorShape
