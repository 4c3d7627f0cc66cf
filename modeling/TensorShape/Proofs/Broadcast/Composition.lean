import TensorShape.Proofs.Axis.Erasure
import TensorShape.Proofs.Broadcast.Mapping
import TensorShape.Proofs.Ending.Operations

/-! # Composed mappings

Two accepted mappings in a row are one accepted mapping. Axes that are apart in the middle shape may
share a target in the last one; they then have dimension one in the middle shape, and so in the
first one. Every shape is mapped to itself, and trailing axes of trailing axes are trailing axes.
-/

namespace TensorShape

/-- The third list has the targets under the second mapping of the targets under the first one. -/
def IsComposite (first second composite : List ℤ) : Prop :=
  first.map (entryAt? second) = composite.map some

def targetOf (second : List ℤ) (axis : ℤ) : ℤ := (entryAt? second axis).getD 0

variable {source middle target : Shape} {p q : List ℤ} {x y : MappedAxis}

theorem checkMapping_eq_pure (h : (checkMapping source target p).result = .ok ()) :
    checkMapping source target p = pure () :=
  (ends_checkMapping (P := fun _ => True) (F := fun _ => False) source target p).eq_pure h

section Through

variable (hlen : q.length = middle.length)

include hlen in
theorem exists_getElem_of_lands (h : Lands middle x) :
    ∃ (n : ℕ) (hn : n < (q.zip middle).length), x.1 = n ∧
      entryAt? q x.1 = some (q.zip middle)[n].1 ∧ (x.2 = 1 ∨ (q.zip middle)[n].2 = x.2) := by
  obtain ⟨⟨hnonneg, hlt⟩, hdim⟩ := h
  obtain ⟨n, hn⟩ := Int.eq_ofNat_of_zero_le hnonneg
  have hmiddle : n < middle.length := by omega
  have hq : n < q.length := hlen ▸ hmiddle
  refine ⟨n, by rw [List.length_zip]; omega, hn, ?_, ?_⟩
  · rw [hn, entryAt?_natCast, List.getElem?_eq_getElem hq, List.getElem_zip]
  · rw [hn, entryAt?_natCast, List.getElem?_eq_getElem hmiddle, Option.some.injEq] at hdim
    rwa [List.getElem_zip]

include hlen in
theorem entryAt?_eq_some_targetOf (h : Lands middle x) :
    entryAt? q x.1 = some (targetOf q x.1) := by
  obtain ⟨n, hn, -, hentry, -⟩ := exists_getElem_of_lands hlen h
  rw [targetOf, hentry, Option.getD_some]

include hlen in
theorem Lands.through (hq : ∀ current ∈ q.zip middle, Lands target current) (h : Lands middle x) :
    Lands target (targetOf q x.1, x.2) := by
  obtain ⟨n, hn, -, hentry, hdim⟩ := exists_getElem_of_lands hlen h
  obtain ⟨hrange, hfit⟩ := hq _ (List.getElem_mem hn)
  rw [targetOf, hentry, Option.getD_some]
  refine ⟨hrange, ?_⟩
  rcases hdim with hone | heq
  · exact Or.inl hone
  · exact heq ▸ hfit

include hlen in
/-- Axes in order are in order after a second mapping, also where only that one joins them. -/
theorem Follows.through (hq : (q.zip middle).Pairwise Follows) (hx : Lands middle x)
    (hy : Lands middle y) (h : Follows x y) :
    Follows (targetOf q x.1, x.2) (targetOf q y.1, y.2) := by
  obtain ⟨m, hm, hxm, hxentry, hxdim⟩ := exists_getElem_of_lands hlen hx
  obtain ⟨n, hn, hyn, hyentry, hydim⟩ := exists_getElem_of_lands hlen hy
  rw [targetOf, targetOf, hxentry, hyentry, Option.getD_some, Option.getD_some]
  obtain ⟨hle, hsame⟩ := h
  rcases hle.lt_or_eq with hlt | heq
  · have hmn : m < n := by omega
    obtain ⟨horder, hunit⟩ := List.pairwise_iff_getElem.mp hq m n hm hn hmn
    refine ⟨horder, fun hjoin => ?_⟩
    obtain ⟨hmone, hnone⟩ := hunit hjoin
    -- The second mapping joins axes of dimension one only, and these take no other dimension.
    exact ⟨hxdim.elim id fun he => he.symm.trans hmone, hydim.elim id fun he => he.symm.trans hnone⟩
  · have hmn : m = n := by omega
    subst hmn
    exact ⟨le_rfl, fun _ => hsame heq.symm⟩

end Through

theorem isComposite_map_targetOf (hp : (checkMapping source middle p).result = .ok ())
    (hq : (checkMapping middle target q).result = .ok ()) :
    IsComposite p q (p.map (targetOf q)) := by
  obtain ⟨hplen, -, hplands, -⟩ := result_checkMapping_eq_ok.mp hp
  obtain ⟨hqlen, -⟩ := result_checkMapping_eq_ok.mp hq
  rw [IsComposite, List.map_map]
  refine List.map_congr_left fun axis haxis => ?_
  rw [← List.map_fst_zip hplen.le] at haxis
  obtain ⟨x, hx, rfl⟩ := List.mem_map.mp haxis
  exact entryAt?_eq_some_targetOf hqlen (hplands x hx)

theorem checkMapping_map_targetOf (hp : (checkMapping source middle p).result = .ok ())
    (hq : (checkMapping middle target q).result = .ok ()) :
    checkMapping source target (p.map (targetOf q)) = pure () := by
  obtain ⟨hplen, hprank, hplands, hporder⟩ := result_checkMapping_eq_ok.mp hp
  obtain ⟨hqlen, hqrank, hqlands, hqorder⟩ := result_checkMapping_eq_ok.mp hq
  have hzip : (p.map (targetOf q)).zip source = (p.zip source).map (Prod.map (targetOf q) id) := by
    rw [List.zip_map_left]
  refine checkMapping_eq_pure (result_checkMapping_eq_ok.mpr ⟨?_, hprank.trans hqrank, ?_, ?_⟩)
  · rw [List.length_map, hplen]
  · rw [hzip, List.forall_mem_map]
    exact fun x hx => (hplands x hx).through hqlen hqlands
  · rw [hzip, List.pairwise_map]
    exact hporder.imp_of_mem fun hx hy =>
      Follows.through hqlen hqorder (hplands _ hx) (hplands _ hy)

theorem pairwise_lt_allAxes (rank : ℕ) : (allAxes rank).Pairwise (· < ·) := by
  rw [allAxes, List.pairwise_map]
  exact List.pairwise_lt_range.imp Int.ofNat_lt.mpr

theorem checkMapping_allAxes (dims : Shape) :
    checkMapping dims dims (allAxes dims.length) = pure () := by
  have hlen : (allAxes dims.length).length = dims.length := length_allAxes dims.length
  refine checkMapping_eq_pure (result_checkMapping_eq_ok.mpr
    ⟨hlen, le_rfl, ?_, pairwise_follows_of_lt hlen (pairwise_lt_allAxes _)⟩)
  intro current hcurrent
  obtain ⟨n, hn, rfl⟩ := List.mem_iff_getElem.mp hcurrent
  have hlt : n < dims.length := by
    rw [List.length_zip] at hn
    omega
  have haxis : ((allAxes dims.length).zip dims)[n] = ((n : ℤ), dims[n]) := by simp [allAxes]
  rw [haxis]
  exact ⟨⟨Int.natCast_nonneg n, Int.ofNat_lt.mpr hlt⟩, Or.inr (List.getElem?_eq_getElem hlt)⟩

theorem trailingAxes_eq_pure (h : source.length ≤ target.length) :
    trailingAxes source target = pure ((List.range source.length).map fun i =>
      ((target.length - source.length + i : ℕ) : ℤ)) :=
  if_neg (Nat.not_lt.mpr h)

theorem isComposite_trailing (hsource : source.length ≤ middle.length)
    (hmiddle : middle.length ≤ target.length) :
    IsComposite
      ((List.range source.length).map fun i => ((middle.length - source.length + i : ℕ) : ℤ))
      ((List.range middle.length).map fun i => ((target.length - middle.length + i : ℕ) : ℤ))
      ((List.range source.length).map fun i => ((target.length - source.length + i : ℕ) : ℤ)) := by
  rw [IsComposite, List.map_map, List.map_map]
  refine List.map_congr_left fun i hi => ?_
  have hlt : middle.length - source.length + i < middle.length := by
    have := List.mem_range.mp hi
    omega
  simp only [Function.comp_apply, entryAt?_natCast, List.getElem?_map, List.getElem?_range hlt,
    Option.map_some, Option.some.injEq]
  omega

/-- Accepted mappings compose to an accepted mapping, every shape is broadcast to itself along all
of its axes, and the mappings to the last axes compose to the mapping to the last axes. -/
theorem checkMapping_composes :
    (∀ (source middle target : Shape) (p q : List ℤ),
      (checkMapping source middle p).result = .ok () →
      (checkMapping middle target q).result = .ok () →
        ∃ r, IsComposite p q r ∧ checkMapping source target r = pure ()) ∧
    (∀ dims : Shape, checkMapping dims dims (allAxes dims.length) = pure ()) ∧
    ∀ source middle target : Shape, source.length ≤ middle.length → middle.length ≤ target.length →
      ∃ p q r, trailingAxes source middle = pure p ∧ trailingAxes middle target = pure q ∧
        trailingAxes source target = pure r ∧ IsComposite p q r := by
  refine ⟨fun source middle target p q hp hq => ?_, checkMapping_allAxes,
    fun source middle target hsource hmiddle => ?_⟩
  · exact ⟨p.map (targetOf q), isComposite_map_targetOf hp hq, checkMapping_map_targetOf hp hq⟩
  · exact ⟨_, _, _, trailingAxes_eq_pure hsource, trailingAxes_eq_pure hmiddle,
      trailingAxes_eq_pure (hsource.trans hmiddle), isComposite_trailing hsource hmiddle⟩

/-- Two axes that are apart in the middle shape are joined by the second mapping alone. The mapping
to the last axes moves an axis twice. -/
theorem checkMapping_composes_joined_later :
    (checkMapping [1, 1, 3] [1, 1, 7, 3] [0, 1, 3]).result = .ok () ∧
      (checkMapping [1, 1, 7, 3] [5, 2, 7, 9, 3] [0, 0, 2, 4]).result = .ok () ∧
      checkMapping [1, 1, 3] [5, 2, 7, 9, 3] [0, 0, 4] = pure () ∧
      trailingAxes [3] [2, 3] = pure [1] ∧ trailingAxes [2, 3] [4, 2, 3] = pure [1, 2] ∧
      trailingAxes [3] [4, 2, 3] = pure [2] ∧ IsComposite [1] [1, 2] [2] := by
  have hp : (checkMapping [1, 1, 3] [1, 1, 7, 3] [0, 1, 3]).result = .ok () :=
    Outcome.result_eq_ok_of_answer? (by decide +kernel)
  have hq : (checkMapping [1, 1, 7, 3] [5, 2, 7, 9, 3] [0, 0, 2, 4]).result = .ok () :=
    Outcome.result_eq_ok_of_answer? (by decide +kernel)
  obtain ⟨hcompose, -, htrailing⟩ := checkMapping_composes
  obtain ⟨r, hr, hcheck⟩ := hcompose _ _ _ _ _ hp hq
  have hlist : ([0, 0, 4] : List ℤ).map some = r.map some := hr
  obtain rfl := List.map_injective_iff.mpr (Option.some_injective ℤ) hlist
  obtain ⟨first, second, both, hfirst, hsecond, hboth, hcomposite⟩ :=
    htrailing [3] [2, 3] [4, 2, 3] (by decide) (by decide)
  have hone : (trailingAxes [3] [2, 3]).result = .ok [1] := rfl
  have htwo : (trailingAxes [2, 3] [4, 2, 3]).result = .ok [1, 2] := rfl
  have hthree : (trailingAxes [3] [4, 2, 3]).result = .ok [2] := rfl
  obtain rfl := Outcome.result_pure_eq_ok.mp (hfirst ▸ hone)
  obtain rfl := Outcome.result_pure_eq_ok.mp (hsecond ▸ htwo)
  obtain rfl := Outcome.result_pure_eq_ok.mp (hboth ▸ hthree)
  exact ⟨hp, hq, hcheck, hfirst, hsecond, hboth, hcomposite⟩

end TensorShape
