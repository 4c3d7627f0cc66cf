import TensorShape.Proofs.Operand

/-! # The first flaw of a broadcast

Two operands are broadcast against each other as their definition says, with or without the shortcut
for equal ones. The names of the left operand are checked first, then those of the right one, then
all dimensions, and then the names from the first axis on. The call ends with the complaint of the
first check that fails, and otherwise answers with the join of the operands. Nothing but the data of
a complaint tells which operand is the left one.
-/

namespace TensorShape

open Outcome

/-- The common shape of two shapes, without the shortcut for a shape broadcast against itself. -/
def broadcastPlainly (lhs : Shape) (lhsNames : GivenNames) (rhs : Shape) (rhsNames : GivenNames) :
    Outcome NamedShape := do
  let left ← lhsNames.assign lhs
  let right ← rhsNames.assign rhs
  join ⟨lhs, left⟩ ⟨rhs, right⟩

/-- The shortcut changes neither the answer nor the records. -/
theorem broadcast_eq_broadcastPlainly (lhs : Shape) (lhsNames : GivenNames) (rhs : Shape)
    (rhsNames : GivenNames) :
    broadcast lhs lhsNames rhs rhsNames = broadcastPlainly lhs lhsNames rhs rhsNames := by
  refine bind_congr_of_ok fun left hleft => bind_congr_of_ok fun right _ => ?_
  split
  · rename_i h
    obtain ⟨rfl, rfl⟩ := h
    exact (join_self (GivenNames.length_of_assign hleft)).symm
  · rfl

section Symmetry

theorem Clashing.symm {d e : ℤ} (h : Clashing (d, e)) : Clashing (e, d) :=
  ⟨h.2.1, h.1, h.2.2.symm⟩

namespace AxisName

variable {m n : AxisName}

theorem Conflicting.symm (h : Conflicting (m, n)) : Conflicting (n, m) := ⟨h.2.1, h.1, h.2.2.symm⟩

theorem or_comm_of_not_conflicting (h : ¬ Conflicting (m, n)) : m.or n = n.or m := by
  cases m with
  | none => rw [Option.none_or, Option.or_none]
  | some s =>
    cases n with
    | none => rw [Option.none_or, Option.or_none]
    | some t => rw [eq_of_not_conflicting h]

end AxisName

end Symmetry

namespace NamedShape

variable {s t r : NamedShape} {i : ℕ} {m n : String}

/-- At each position counted from the end, the larger dimension of two shapes and the first name
that is there. -/
structure IsJoin (s t r : NamedShape) : Prop where
  aligned : r.Aligned
  rank_eq : r.rank = max s.rank t.rank
  dims : ∀ i, fromEnd 1 r.dims i = max (fromEnd 1 s.dims i) (fromEnd 1 t.dims i)
  names : ∀ i, fromEnd none r.names i = (fromEnd none s.names i).or (fromEnd none t.names i)

/-- Two names differ at a position, and none do that are further to the left. -/
structure ConflictsFirst (s t : NamedShape) (i : ℕ) (m n : String) : Prop where
  lhs : fromEnd none s.names i = some m
  rhs : fromEnd none t.names i = some n
  ne : m ≠ n
  before : ∀ j > i, ¬ AxisName.Conflicting (fromEnd none s.names j, fromEnd none t.names j)

theorem isJoin_iff (hs : s.Aligned) (ht : t.Aligned) : s.IsJoin t r ↔ s.combine t = r := by
  constructor
  · intro h
    refine eq_of_fromEnd (aligned_combine hs ht) h.aligned (rank_combine.trans h.rank_eq.symm) ?_ ?_
    · exact fun i => fromEnd_combine_dims.trans (h.dims i).symm
    · exact fun i => fromEnd_combine_names.trans (h.names i).symm
  · rintro rfl
    exact ⟨aligned_combine hs ht, rank_combine, fun _ => fromEnd_combine_dims,
      fun _ => fromEnd_combine_names⟩

theorem Fits.symm (h : s.Fits t) : t.Fits s :=
  ⟨fun i hi => h.dims i hi.symm, fun i hi => h.names i hi.symm⟩

theorem Fits.isJoin_symm (h : s.Fits t) (hr : s.IsJoin t r) : t.IsJoin s r := by
  refine ⟨hr.aligned, hr.rank_eq.trans (max_comm _ _), fun i => ?_, fun i => ?_⟩
  · rw [hr.dims, max_comm]
  · rw [hr.names, AxisName.or_comm_of_not_conflicting (h.names i)]

theorem ConflictsFirst.symm (h : s.ConflictsFirst t i m n) : t.ConflictsFirst s i n m :=
  ⟨h.rhs, h.lhs, h.ne.symm, fun j hj hc => h.before j hj hc.symm⟩

theorem exists_conflictsFirst
    (h : ∃ i, AxisName.Conflicting (fromEnd none s.names i, fromEnd none t.names i)) :
    ∃ i m n, s.ConflictsFirst t i m n := by
  have hbound : ∀ i, AxisName.Conflicting (fromEnd none s.names i, fromEnd none t.names i) →
      i ≤ s.names.length := by
    rintro i ⟨hs, -⟩
    by_contra hlt
    exact hs (fromEnd_of_length_le (Nat.le_of_not_le hlt))
  classical
  obtain ⟨i₀, hi₀⟩ := h
  obtain ⟨hs, ht, hne⟩ := Nat.findGreatest_spec
    (P := fun i => AxisName.Conflicting (fromEnd none s.names i, fromEnd none t.names i))
    (hbound i₀ hi₀) hi₀
  obtain ⟨m, hm⟩ := Option.ne_none_iff_exists'.mp hs
  obtain ⟨n, hn⟩ := Option.ne_none_iff_exists'.mp ht
  refine ⟨_, m, n, hm, hn, ?_, fun j hj hc => ?_⟩
  · rintro rfl
    exact hne (hm.trans hn.symm)
  · exact Nat.findGreatest_is_greatest hj (hbound j hc) hc

end NamedShape

open NamedShape

variable {s t : NamedShape} {i : ℕ} {m n : String}

theorem AxisName.succeeds_merge {p q : AxisName} (h : ¬ Conflicting (p, q)) :
    (p.merge q).Succeeds :=
  merge_eq_pure h ▸ succeeds_pure _

theorem AxisName.failsAs_merge (h : m ≠ n) :
    (merge (some m) (some n)).FailsAs (.rejection .nameMerge .nameConflict
      [("lhs_name", .text m), ("rhs_name", .text n)]) := by
  rw [merge, if_neg h]
  exact Violation.failsAs_reject_of_unquoted rfl

theorem failsAs_join_of_clashing (h : Clashing (fromEnd 1 s.dims i, fromEnd 1 t.dims i)) :
    (join s t).FailsAs (.rejection .pairing .broadcastIncompatible
      [("lhs_shape", .ints s.dims), ("rhs_shape", .ints t.dims)]) := by
  have hany := any_clashing_iff.mpr fun hnone => hnone i h
  rw [join, if_pos hany]
  exact Violation.failsAs_reject_of_unquoted rfl

/-- Names are merged from left to right, and the first two that differ are complained of. -/
theorem NamedShape.ConflictsFirst.failsAs_join (h : s.ConflictsFirst t i m n)
    (hdims : ∀ i, ¬ Clashing (fromEnd 1 s.dims i, fromEnd 1 t.dims i)) :
    (join s t).FailsAs (.rejection .nameMerge .nameConflict
      [("lhs_name", .text m), ("rhs_name", .text n)]) := by
  have hi : i < max s.names.length t.names.length := by
    by_contra hge
    have hlhs : fromEnd none s.names i = none := fromEnd_of_length_le (by omega)
    exact Option.some_ne_none m (h.lhs.symm.trans hlhs)
  have hat : (align none s.names t.names)[max s.names.length t.names.length - 1 - i]? =
      some (some m, some n) := by
    refine getElem?_align_eq_some.mpr ⟨by omega, ?_⟩
    rw [Nat.sub_sub_self (by omega), h.lhs, h.rhs]
  rw [join_of_not_clashing hdims]
  apply FailsAs.bind
  apply FailsAs.mapM hat
  · exact AxisName.failsAs_merge h.ne
  · intro k hk pair hpair
    obtain ⟨-, rfl⟩ := getElem?_align_eq_some.mp hpair
    exact AxisName.succeeds_merge (h.before _ (by omega))

/-- The complaint of a broadcast for the first check that fails. -/
inductive BroadcastFlaw (l r : Operand) : Complaint → Prop
  | lhsNames {c : Complaint} : l.Misnamed c → BroadcastFlaw l r c
  | rhsNames {c : Complaint} : l.Named → r.Misnamed c → BroadcastFlaw l r c
  | clash {i : ℕ} : l.Named → r.Named → Clashing (fromEnd 1 l.dims i, fromEnd 1 r.dims i) →
    BroadcastFlaw l r (.rejection .pairing .broadcastIncompatible
      [("lhs_shape", .ints l.dims), ("rhs_shape", .ints r.dims)])
  | conflict {i : ℕ} {m n : String} : l.Named → r.Named →
    (∀ i, ¬ Clashing (fromEnd 1 l.dims i, fromEnd 1 r.dims i)) →
    l.shape.ConflictsFirst r.shape i m n →
    BroadcastFlaw l r (.rejection .nameMerge .nameConflict
      [("lhs_name", .text m), ("rhs_name", .text n)])

section Operands

variable {l r : Operand} {c : Complaint}

theorem Operand.Named.broadcast_eq_join (hl : l.Named) (hr : r.Named) :
    broadcast l.dims l.given r.dims r.given = join l.shape r.shape :=
  TensorShape.broadcast_eq_join hl.assign_given hr.assign_given

/-- A broadcast ends with the complaint of its first flaw. -/
theorem BroadcastFlaw.failsAs (h : BroadcastFlaw l r c) :
    (broadcast l.dims l.given r.dims r.given).FailsAs c := by
  cases h with
  | lhsNames hl => exact hl.failsAs_assign.bind _
  | rhsNames hl hr =>
    rw [broadcast, hl.assign_given, pure_bind]
    exact hr.failsAs_assign.bind _
  | clash hl hr hclash =>
    rw [hl.broadcast_eq_join hr]
    exact failsAs_join_of_clashing hclash
  | conflict hl hr hdims hfirst =>
    rw [hl.broadcast_eq_join hr]
    exact hfirst.failsAs_join hdims

/-- A broadcast answers exactly if its operands have names of the right number and fit. -/
theorem result_broadcast_given_eq_ok {s : NamedShape} :
    (broadcast l.dims l.given r.dims r.given).result = .ok s ↔
      l.Named ∧ r.Named ∧ l.shape.Fits r.shape ∧ l.shape.IsJoin r.shape s := by
  constructor
  · intro h
    have hsucceeds : (broadcast l.dims l.given r.dims r.given).Succeeds := ⟨s, h⟩
    rcases l.named_or_misnamed with hl | ⟨c, hl⟩
    · rcases r.named_or_misnamed with hr | ⟨c, hr⟩
      · rw [hl.broadcast_eq_join hr, result_join_eq_ok hl.aligned hr.aligned,
          ← isJoin_iff hl.aligned hr.aligned] at h
        exact ⟨hl, hr, h⟩
      · exact absurd hsucceeds (BroadcastFlaw.rhsNames hl hr).failsAs.not_succeeds
    · exact absurd hsucceeds (BroadcastFlaw.lhsNames hl).failsAs.not_succeeds
  · rintro ⟨hl, hr, hfits, hjoin⟩
    rw [hl.broadcast_eq_join hr, result_join_eq_ok hl.aligned hr.aligned,
      ← isJoin_iff hl.aligned hr.aligned]
    exact ⟨hfits, hjoin⟩

theorem succeeds_broadcast_given_iff :
    (broadcast l.dims l.given r.dims r.given).Succeeds ↔
      l.Named ∧ r.Named ∧ l.shape.Fits r.shape := by
  constructor
  · rintro ⟨s, hs⟩
    obtain ⟨hl, hr, hfits, -⟩ := result_broadcast_given_eq_ok.mp hs
    exact ⟨hl, hr, hfits⟩
  · rintro ⟨hl, hr, hfits⟩
    have hjoin := (isJoin_iff hl.aligned hr.aligned).mpr rfl
    exact ⟨_, result_broadcast_given_eq_ok.mpr ⟨hl, hr, hfits, hjoin⟩⟩

theorem succeeds_or_broadcastFlaw (l r : Operand) :
    (broadcast l.dims l.given r.dims r.given).Succeeds ∨ ∃ c, BroadcastFlaw l r c := by
  rcases l.named_or_misnamed with hl | ⟨c, hl⟩
  · rcases r.named_or_misnamed with hr | ⟨c, hr⟩
    · by_cases hdims : ∀ i, ¬ Clashing (fromEnd 1 l.dims i, fromEnd 1 r.dims i)
      · by_cases hnames : ∃ i,
          AxisName.Conflicting (fromEnd none l.shape.names i, fromEnd none r.shape.names i)
        · obtain ⟨i, m, n, hfirst⟩ := exists_conflictsFirst hnames
          exact Or.inr ⟨_, .conflict hl hr hdims hfirst⟩
        · exact Or.inl (succeeds_broadcast_given_iff.mpr
            ⟨hl, hr, hdims, fun i hi => hnames ⟨i, hi⟩⟩)
      · obtain ⟨i, hi⟩ := not_forall_not.mp hdims
        exact Or.inr ⟨_, .clash hl hr hi⟩
    · exact Or.inr ⟨c, .rhsNames hl hr⟩
  · exact Or.inr ⟨c, .lhsNames hl⟩

/-- Where a broadcast has a first flaw, that of the exchanged operands is of the same code. -/
theorem BroadcastFlaw.exchange (h : BroadcastFlaw l r c) :
    ∃ c' code, BroadcastFlaw r l c' ∧ c.sort = .inr code ∧ c'.sort = .inr code := by
  cases h with
  | lhsNames hl =>
    rcases r.named_or_misnamed with hr | ⟨c', hr⟩
    · exact ⟨_, _, .rhsNames hr hl, hl.sort_eq, hl.sort_eq⟩
    · exact ⟨c', _, .lhsNames hr, hl.sort_eq, hr.sort_eq⟩
  | rhsNames hl hr => exact ⟨_, _, .lhsNames hr, hr.sort_eq, hr.sort_eq⟩
  | clash hl hr hclash => exact ⟨_, _, .clash hr hl hclash.symm, rfl, rfl⟩
  | conflict hl hr hdims hfirst =>
    exact ⟨_, _, .conflict hr hl (fun i hi => hdims i hi.symm) hfirst.symm, rfl, rfl⟩

theorem result_broadcast_exchange {s : NamedShape}
    (h : (broadcast l.dims l.given r.dims r.given).result = .ok s) :
    (broadcast r.dims r.given l.dims l.given).result = .ok s := by
  obtain ⟨hl, hr, hfits, hjoin⟩ := result_broadcast_given_eq_ok.mp h
  exact result_broadcast_given_eq_ok.mpr ⟨hr, hl, hfits.symm, hfits.isJoin_symm hjoin⟩

end Operands

/-- The shortcut of a broadcast is of no consequence. A broadcast answers with the join of its
operands exactly if either has no names or one for each axis, and they fit. It ends with the
complaint of its first flaw otherwise. The exchanged operands have the same answer, or are rejected
with the same code. -/
theorem broadcast_joins_or_tells_first_flaw :
    (∀ lhs lhsNames rhs rhsNames,
      broadcast lhs lhsNames rhs rhsNames = broadcastPlainly lhs lhsNames rhs rhsNames) ∧
    ∀ l r : Operand,
      let x := broadcast l.dims l.given r.dims r.given
      let y := broadcast r.dims r.given l.dims l.given
      (x.Succeeds ↔ l.Named ∧ r.Named ∧ l.shape.Fits r.shape) ∧
      (∀ s, x.result = .ok s → l.shape.IsJoin r.shape s) ∧
      (¬ x.Succeeds → ∃ c, BroadcastFlaw l r c) ∧
      (∀ c, BroadcastFlaw l r c → x.FailsAs c) ∧
      ((∃ s, x.result = .ok s ∧ y.result = .ok s) ∨
        ∃ code, x.RejectedWith code ∧ y.RejectedWith code) := by
  refine ⟨broadcast_eq_broadcastPlainly, fun l r => ⟨succeeds_broadcast_given_iff, fun s hs => ?_,
    (succeeds_or_broadcastFlaw l r).resolve_left, fun c => BroadcastFlaw.failsAs, ?_⟩⟩
  · obtain ⟨-, -, -, hjoin⟩ := result_broadcast_given_eq_ok.mp hs
    exact hjoin
  · rcases succeeds_or_broadcastFlaw l r with ⟨s, hs⟩ | ⟨c, hc⟩
    · exact Or.inl ⟨s, hs, result_broadcast_exchange hs⟩
    · obtain ⟨c', code, hc', hcode, hcode'⟩ := hc.exchange
      exact Or.inr ⟨code, hc.failsAs.rejectedWith hcode, hc'.failsAs.rejectedWith hcode'⟩

/-- A negative dimension gives way to one. Clashing dimensions are complained of before two names
that differ further to the left, and of two such pairs of names the left one is told. -/
theorem broadcast_joins_or_tells_first_flaw_any_position :
    let l : Operand := ⟨[-3, 1, 5], some [none, some "row", some "col"]⟩
    let r : Operand := ⟨[2, 5], some [some "col", some "row"]⟩
    (∃ s, (broadcast l.dims l.given [5] (Operand.mk [5] none).given).result = .ok s ∧
      l.shape.IsJoin ⟨[5], [none]⟩ s) ∧
    (broadcast l.dims l.given [1] (Operand.mk [1] (some [])).given).FailsAs
      (.rejection .naming .rankMismatch [("rank", .nat 1), ("names", .tuple [])]) ∧
    (broadcast l.dims l.given [2, 4] (Operand.mk [2, 4] r.names).given).FailsAs
      (.rejection .pairing .broadcastIncompatible
        [("lhs_shape", .ints [-3, 1, 5]), ("rhs_shape", .ints [2, 4])]) ∧
    (¬ (broadcast l.dims l.given r.dims r.given).Succeeds ∧
      (∃ c, BroadcastFlaw l r c) ∧
      (broadcast l.dims l.given r.dims r.given).FailsAs (.rejection .nameMerge .nameConflict
        [("lhs_name", .text "row"), ("rhs_name", .text "col")])) := by
  intro l r
  have hanswer : (broadcast l.dims l.given [5] (Operand.mk [5] none).given).result =
      .ok ⟨[1, 1, 5], [none, some "row", some "col"]⟩ :=
    Outcome.result_eq_ok_of_answer? (by decide +kernel)
  have hdims : ∀ i, ¬ Clashing (fromEnd 1 l.dims i, fromEnd 1 r.dims i) :=
    (forall_mem_align (P := fun pair => ¬ Clashing pair) not_clashing_one).mp (by decide)
  have hfirst : l.shape.ConflictsFirst r.shape 1 "row" "col" := by
    refine ⟨rfl, rfl, by decide, fun j hj hc => hc.2.1 ?_⟩
    exact fromEnd_of_length_le hj
  obtain ⟨-, hflaw⟩ := broadcast_joins_or_tells_first_flaw
  obtain ⟨-, -, hexists, hfails, -⟩ := hflaw l r
  have hconflict := hfails _ (.conflict (by decide) (by decide) hdims hfirst)
  refine ⟨⟨_, hanswer, (hflaw l ⟨[5], none⟩).2.1 _ hanswer⟩, ?_, ?_,
    hconflict.not_succeeds, hexists hconflict.not_succeeds, hconflict⟩
  · have hcount : (Operand.mk [1] (some [])).Misnamed _ := .count rfl (by decide)
    exact (hflaw l ⟨[1], some []⟩).2.2.2.1 _ (.rhsNames (by decide) hcount)
  · have hclash : Clashing (fromEnd 1 l.dims 0, fromEnd 1 [2, 4] 0) := by decide
    exact (hflaw l ⟨[2, 4], r.names⟩).2.2.2.1 _ (.clash (by decide) (by decide) hclash)

end TensorShape
