import TensorShape.Proofs.Dot.Contraction

/-! # Associativity of contraction

Three shapes are contracted in a row, the middle one with both of its neighbours. Whichever
contraction comes first moves the axes for the other one, and both orders erase the same axes. They
differ only in the names that stand on two axes in between.
-/

namespace TensorShape

namespace NamedShape

/-- Contracts the first shape with the second one, and the result with the third one. The axes `c`
of the second shape are counted after `b` is gone and the rest of the first shape stands before. -/
def dotLeft (s : NamedShape) (a : List ℤ) (t : NamedShape) (b c : List ℤ) (u : NamedShape)
    (d : List ℤ) : Outcome NamedShape := do
  let st ← dot s.dims a s.given t.dims b t.given
  dot st.dims (c.map fun i => (s.rank - a.length) + indexAfter b i) st.given u.dims d u.given

/-- Contracts the second shape with the third one, and the first one with the result. The axes `b`
of the second shape are counted after `c` is gone. -/
def dotRight (s : NamedShape) (a : List ℤ) (t : NamedShape) (b c : List ℤ) (u : NamedShape)
    (d : List ℤ) : Outcome NamedShape := do
  let tu ← dot t.dims c t.given u.dims d u.given
  dot s.dims a s.given tu.dims (b.map (indexAfter c)) tu.given

def contractBoth (s : NamedShape) (a : List ℤ) (t : NamedShape) (b c : List ℤ) (u : NamedShape)
    (d : List ℤ) : NamedShape :=
  (s.erase a).append ((t.erase (b ++ c)).append (u.erase d))

variable {s t u : NamedShape} {a b c d : List ℤ}

section Left

variable (hs : s.Aligned) (ha : DistinctAxes s.rank a) (hb : DistinctAxes t.rank b)
  (hc : DistinctAxes t.rank c) (hcb : ∀ i ∈ c, i ∉ b)

include ha in
theorem map_shift_eq :
    (c.map fun i => (s.rank - a.length) + indexAfter b i) =
      (c.map (indexAfter b)).map fun i : ℤ => (s.erase a).rank + i := by
  rw [List.map_map, LabelledShape.rank_erase ha]
  rfl

include hb hc in
theorem nonneg_of_mem_map_indexAfter : ∀ i ∈ c.map (indexAfter b), 0 ≤ i := by
  intro i hi
  obtain ⟨k, hk, rfl⟩ := List.mem_map.mp hi
  exact indexAfter_nonneg hb.nodup hb.nonneg (hc.nonneg k hk)

include hs ha hb hc hcb in
theorem contract_contract_left (ht : t.Aligned) :
    (s.contract a t b).contract (c.map fun i => (s.rank - a.length) + indexAfter b i) u d =
      contractBoth s a t b c u d := by
  rw [map_shift_eq ha, contract, contract, contractBoth,
    LabelledShape.erase_append_right _ (LabelledShape.aligned_erase hs a)
      (nonneg_of_mem_map_indexAfter hb hc),
    LabelledShape.erase_erase ht hb hc hcb, LabelledShape.append_assoc]

include ha hb hc hcb in
theorem map_entry_left :
    (c.map fun i => (s.rank - a.length) + indexAfter b i).map
        (entryFromEitherEnd? (s.contract a t b).dims) =
      c.map (entryFromEitherEnd? t.dims) := by
  rw [map_shift_eq ha, List.map_map, List.map_map]
  refine List.map_congr_left fun i hi => ?_
  have hnonneg := indexAfter_nonneg hb.nodup hb.nonneg (hc.nonneg i hi)
  have hentry := entryAt?_append_right (s.erase a).dims (t.erase b).dims hnonneg
  simp only [Function.comp_apply]
  rw [entryFromEitherEnd?_of_nonneg (hc.nonneg i hi),
    entryFromEitherEnd?_of_nonneg (Int.add_nonneg (Int.natCast_nonneg _) hnonneg)]
  exact hentry.trans (entryAt?_eraseAxes hb.nodup hb.nonneg (hc.nonneg i hi) (hc.lt i hi)
    (hcb i hi))

include ha hb hc hcb in
theorem matching_left_iff :
    Matching (s.contract a t b).dims u.dims
        (c.map fun i => (s.rank - a.length) + indexAfter b i) d ↔
      Matching t.dims u.dims c d := by
  have hentry := map_entry_left (s := s) (t := t) ha hb hc hcb
  exact ⟨fun h => h.congr hentry.symm rfl, fun h => h.congr hentry rfl⟩

end Left

section Right

variable (hb : DistinctAxes t.rank b) (hc : DistinctAxes t.rank c) (hbc : ∀ i ∈ b, i ∉ c)

include hb hc hbc in
theorem contract_contract_right (ht : t.Aligned) :
    s.contract a (t.contract c u d) (b.map (indexAfter c)) = contractBoth s a t b c u d := by
  have hlt : ∀ i ∈ b.map (indexAfter c), i < (t.erase c).rank := by
    intro i hi
    obtain ⟨k, hk, rfl⟩ := List.mem_map.mp hi
    exact indexAfter_lt_length hc.nodup hc.nonneg (hb.nonneg k hk) (hb.lt k hk) (hbc k hk)
  rw [contract, contract, contractBoth,
    LabelledShape.erase_append_left _ (LabelledShape.aligned_erase ht c) hlt,
    LabelledShape.erase_erase ht hc hb hbc, LabelledShape.erase_comm]

include hb hc hbc in
theorem map_entry_right :
    (b.map (indexAfter c)).map (entryFromEitherEnd? (t.contract c u d).dims) =
      b.map (entryFromEitherEnd? t.dims) := by
  rw [List.map_map]
  refine List.map_congr_left fun i hi => ?_
  have hentry : entryAt? (t.erase c).dims (indexAfter c i) = entryAt? t.dims i :=
    entryAt?_eraseAxes hc.nodup hc.nonneg (hb.nonneg i hi) (hb.lt i hi) (hbc i hi)
  obtain ⟨x, hx⟩ := Option.isSome_iff_exists.mp (entryAt?_isSome.mpr (hb.within i hi))
  rw [Function.comp_apply, entryFromEitherEnd?_of_nonneg (hb.nonneg i hi),
    entryFromEitherEnd?_of_nonneg (indexAfter_nonneg hc.nodup hc.nonneg (hb.nonneg i hi)), hx]
  exact entryAt?_append_left (hentry.trans hx)

include hb hc hbc in
theorem matching_right_iff :
    Matching s.dims (t.contract c u d).dims a (b.map (indexAfter c)) ↔
      Matching s.dims t.dims a b := by
  have hentry := map_entry_right (u := u) (d := d) hb hc hbc
  exact ⟨fun h => h.congr rfl hentry.symm, fun h => h.congr rfl hentry⟩

end Right

section Groupings

variable (hs : s.Aligned) (ht : t.Aligned) (hu : u.Aligned) (ha : DistinctAxes s.rank a)
  (hb : DistinctAxes t.rank b) (hc : DistinctAxes t.rank c) (hcb : ∀ i ∈ c, i ∉ b)
  (hbc : ∀ i ∈ b, i ∉ c)

include hs ht ha hb hc hcb in
theorem matching_of_dotLeft (h : (dotLeft s a t b c u d).Succeeds) :
    Matching s.dims t.dims a b ∧ Matching t.dims u.dims c d := by
  obtain ⟨r, h⟩ := h
  obtain ⟨st, hst, hstu⟩ := Outcome.result_bind_eq_ok.mp h
  obtain ⟨hab, -, rfl⟩ := (result_dot_eq_ok hs ht).mp hst
  exact ⟨hab, (matching_left_iff ha hb hc hcb).mp (matching_of_dot hstu)⟩

include ht hu hb hc hbc in
theorem matching_of_dotRight (h : (dotRight s a t b c u d).Succeeds) :
    Matching s.dims t.dims a b ∧ Matching t.dims u.dims c d := by
  obtain ⟨r, h⟩ := h
  obtain ⟨tu, htu, hstu⟩ := Outcome.result_bind_eq_ok.mp h
  obtain ⟨hcd, -, rfl⟩ := (result_dot_eq_ok ht hu).mp htu
  exact ⟨(matching_right_iff hb hc hbc).mp (matching_of_dot hstu), hcd⟩

variable (hab : Matching s.dims t.dims a b) (hcd : Matching t.dims u.dims c d)

include hs ht hu ha hb hc hcb hab hcd in
theorem dotLeft_eq_pure_or_rejected :
    dotLeft s a t b c u d = pure (contractBoth s a t b c u d) ∨
      (dotLeft s a t b c u d).RejectedWith .duplicateNames := by
  unfold dotLeft
  rcases dot_eq_pure_or_rejected hs ht hab with hfirst | hfirst
  · rw [hfirst, pure_bind, ← contract_contract_left hs ha hb hc hcb ht]
    exact dot_eq_pure_or_rejected (aligned_contract hs ht a b) hu
      ((matching_left_iff ha hb hc hcb).mpr hcd)
  · exact Or.inr (hfirst.bind _)

include hs ht hu hb hc hbc hab hcd in
theorem dotRight_eq_pure_or_rejected :
    dotRight s a t b c u d = pure (contractBoth s a t b c u d) ∨
      (dotRight s a t b c u d).RejectedWith .duplicateNames := by
  unfold dotRight
  rcases dot_eq_pure_or_rejected ht hu hcd with hfirst | hfirst
  · rw [hfirst, pure_bind, ← contract_contract_right hb hc hbc ht]
    exact dot_eq_pure_or_rejected hs (aligned_contract ht hu c d)
      ((matching_right_iff hb hc hbc).mpr hab)
  · exact Or.inr (hfirst.bind _)

variable (hsn : ∀ n ∈ s.names, n = none) (htn : ∀ n ∈ t.names, n = none)
  (hun : ∀ n ∈ u.names, n = none)

include hs ht hu ha hb hc hcb hab hcd hsn htn hun in
theorem dotLeft_succeeds_of_unnamed : (dotLeft s a t b c u d).Succeeds := by
  rw [dotLeft, dot_eq_pure_of_unnamed hs ht hab hsn htn, pure_bind,
    dot_eq_pure_of_unnamed (aligned_contract hs ht a b) hu
      ((matching_left_iff ha hb hc hcb).mpr hcd) (forall_mem_contract_names hsn htn) hun]
  exact Outcome.succeeds_pure _

include hs ht hu hb hc hbc hab hcd hsn htn hun in
theorem dotRight_succeeds_of_unnamed : (dotRight s a t b c u d).Succeeds := by
  rw [dotRight, dot_eq_pure_of_unnamed ht hu hcd htn hun, pure_bind,
    dot_eq_pure_of_unnamed hs (aligned_contract ht hu c d)
      ((matching_right_iff hb hc hbc).mpr hab) hsn (forall_mem_contract_names htn hun)]
  exact Outcome.succeeds_pure _

end Groupings

/-- Both orders of two contractions give the same named shape where they give any. One of them
fails alone only by a name that stands on two axes, and so never without names. -/
theorem dot_assoc (hs : s.Aligned) (ht : t.Aligned) (hu : u.Aligned)
    (ha : DistinctAxes s.rank a) (hb : DistinctAxes t.rank b) (hc : DistinctAxes t.rank c)
    (hcb : ∀ i ∈ c, i ∉ b) :
    (∀ l r, (dotLeft s a t b c u d).result = .ok l → (dotRight s a t b c u d).result = .ok r →
      l = r) ∧
    ((dotLeft s a t b c u d).Succeeds → ¬ (dotRight s a t b c u d).Succeeds →
      (dotRight s a t b c u d).RejectedWith .duplicateNames) ∧
    ((dotRight s a t b c u d).Succeeds → ¬ (dotLeft s a t b c u d).Succeeds →
      (dotLeft s a t b c u d).RejectedWith .duplicateNames) ∧
    ((∀ n ∈ s.names, n = none) → (∀ n ∈ t.names, n = none) → (∀ n ∈ u.names, n = none) →
      ((dotLeft s a t b c u d).Succeeds ↔ (dotRight s a t b c u d).Succeeds)) := by
  have hbc : ∀ i ∈ b, i ∉ c := fun i hi hic => hcb i hic hi
  -- Where one order succeeds the axes match, and then either order comes to `contractBoth` or
  -- leaves a name on two axes.
  refine ⟨fun l r hl hr => ?_, fun hl hr => ?_, fun hr hl => ?_, fun hsn htn hun => ?_⟩
  · obtain ⟨hab, hcd⟩ := matching_of_dotLeft hs ht ha hb hc hcb ⟨l, hl⟩
    rcases dotLeft_eq_pure_or_rejected hs ht hu ha hb hc hcb hab hcd with hleft | hleft
    · rcases dotRight_eq_pure_or_rejected hs ht hu hb hc hbc hab hcd with hright | hright
      · rw [hleft, Outcome.result_pure_eq_ok] at hl
        rw [hright, Outcome.result_pure_eq_ok] at hr
        exact hl.symm.trans hr
      · exact absurd ⟨r, hr⟩ hright.not_succeeds
    · exact absurd ⟨l, hl⟩ hleft.not_succeeds
  · obtain ⟨hab, hcd⟩ := matching_of_dotLeft hs ht ha hb hc hcb hl
    refine (dotRight_eq_pure_or_rejected hs ht hu hb hc hbc hab hcd).resolve_left fun hright => ?_
    exact hr (hright ▸ Outcome.succeeds_pure _)
  · obtain ⟨hab, hcd⟩ := matching_of_dotRight ht hu hb hc hbc hr
    refine (dotLeft_eq_pure_or_rejected hs ht hu ha hb hc hcb hab hcd).resolve_left fun hleft => ?_
    exact hl (hleft ▸ Outcome.succeeds_pure _)
  · constructor
    · intro hl
      obtain ⟨hab, hcd⟩ := matching_of_dotLeft hs ht ha hb hc hcb hl
      exact dotRight_succeeds_of_unnamed hs ht hu hb hc hbc hab hcd hsn htn hun
    · intro hr
      obtain ⟨hab, hcd⟩ := matching_of_dotRight ht hu hb hc hbc hr
      exact dotLeft_succeeds_of_unnamed hs ht hu ha hb hc hcb hab hcd hsn htn hun

/-- Contracted from the left, a name is gone before it would meet itself. Contracted from the right
it stands on two axes first. -/
theorem dot_assoc_only_from_left :
    (dotLeft ⟨[2, 3], [some "i", some "j"]⟩ [1] ⟨[3, 4], [some "x", some "k"]⟩ [0] [1]
        ⟨[4, 7], [some "k", some "x"]⟩ [0]).result = .ok ⟨[2, 7], [some "i", some "x"]⟩ ∧
      (dotRight ⟨[2, 3], [some "i", some "j"]⟩ [1] ⟨[3, 4], [some "x", some "k"]⟩ [0] [1]
        ⟨[4, 7], [some "k", some "x"]⟩ [0]).RejectedWith .duplicateNames := by
  have hs : LabelledShape.Aligned ⟨[2, 3], [some "i", some "j"]⟩ := rfl
  have ht : LabelledShape.Aligned ⟨[3, 4], [some "x", some "k"]⟩ := rfl
  have hu : LabelledShape.Aligned ⟨[4, 7], [some "k", some "x"]⟩ := rfl
  have hleft : (dotLeft ⟨[2, 3], [some "i", some "j"]⟩ [1] ⟨[3, 4], [some "x", some "k"]⟩ [0] [1]
      ⟨[4, 7], [some "k", some "x"]⟩ [0]).result = .ok ⟨[2, 7], [some "i", some "x"]⟩ :=
    Outcome.result_eq_ok_of_answer? (by decide +kernel)
  refine ⟨hleft, (dot_assoc hs ht hu (by decide) (by decide) (by decide) (by decide)).2.1
    ⟨_, hleft⟩ ?_⟩
  rintro ⟨r, hr⟩
  rw [dotRight, Outcome.result_bind_eq_ok] at hr
  obtain ⟨tu, htu, -⟩ := hr
  have hnames := ((result_dot_eq_ok ht hu).mp htu).2.1
  revert hnames
  decide

end NamedShape

end TensorShape
