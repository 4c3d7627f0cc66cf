import Mathlib.Data.Int.Interval
import Mathlib.Data.Rat.Floor
import Mathlib.Data.Set.Card
import Mathlib.Order.Bounds.Defs
import Mathlib.Tactic.Ring
import TensorShape.Proofs.Sequencing
import TensorShape.Window.Positions

/-! # Positions of a window

The number of positions rounds down and the number of steps rounds up. Both are compared with a
number by an inequality between products, and so is the padding that makes one reach the other.
-/

namespace TensorShape

variable {dim extent stride n : ℤ}

theorem stepsToCover_eq_ceil (h : 0 < stride) :
    stepsToCover dim stride = ⌈(dim : ℚ) / stride⌉ := by
  obtain ⟨k, rfl⟩ := Int.eq_ofNat_of_zero_le (Int.le_of_lt h)
  rw [stepsToCover, Int.fdiv_eq_ediv_of_nonneg _ (Int.natCast_nonneg k)]
  exact (Rat.ceil_intCast_div_natCast dim k).symm

theorem positions_eq_floor (h : 0 < stride) :
    positions dim extent stride = ⌊((dim - extent : ℤ) : ℚ) / stride⌋ + 1 := by
  obtain ⟨k, rfl⟩ := Int.eq_ofNat_of_zero_le (Int.le_of_lt h)
  rw [positions, Int.fdiv_eq_ediv_of_nonneg _ (Int.natCast_nonneg k)]
  exact congrArg (· + 1) (Rat.floor_intCast_div_natCast (dim - extent) k).symm

theorem le_positions_iff (h : 0 < stride) :
    n ≤ positions dim extent stride ↔ (n - 1) * stride + extent ≤ dim := by
  have hdiv : n - 1 ≤ (dim - extent) / stride ↔ (n - 1) * stride ≤ dim - extent :=
    Int.le_ediv_iff_mul_le h
  rw [positions, Int.fdiv_eq_ediv_of_nonneg _ (Int.le_of_lt h)]
  omega

theorem stepsToCover_le_iff (h : 0 < stride) :
    stepsToCover dim stride ≤ n ↔ dim ≤ n * stride := by
  have hdiv : -n ≤ -dim / stride ↔ -n * stride ≤ -dim := Int.le_ediv_iff_mul_le h
  have hneg : -n * stride = -(n * stride) := Int.neg_mul n stride
  rw [stepsToCover, Int.fdiv_eq_ediv_of_nonneg _ (Int.le_of_lt h)]
  omega

theorem one_le_positions_iff (h : 0 < stride) : 1 ≤ positions dim extent stride ↔ extent ≤ dim := by
  rw [le_positions_iff h, Int.sub_self, Int.zero_mul, Int.zero_add]

/-- The positions of a window along the positions of another are those of one window. -/
theorem positions_positions {extent' stride' : ℤ} (h : 0 < stride) (h' : 0 < stride') (more : ℤ) :
    positions (positions dim extent stride + more) extent' stride' =
      positions (dim + stride * more) (extent + (extent' - 1) * stride) (stride * stride') := by
  apply eq_of_forall_le_iff
  intro n
  have hadd : (n - 1) * stride' + extent' ≤ positions dim extent stride + more ↔
      (n - 1) * stride' + extent' - more ≤ positions dim extent stride := by omega
  have hmul : ((n - 1) * stride' + extent' - more - 1) * stride + extent + stride * more =
      (n - 1) * (stride * stride') + (extent + (extent' - 1) * stride) := by ring
  rw [le_positions_iff h', hadd, le_positions_iff h, le_positions_iff (Int.mul_pos h h'), ← hmul]
  omega

theorem stepsToCover_sub_add_one (h : 0 < stride) :
    stepsToCover (dim - extent + 1) stride = positions dim extent stride := by
  apply eq_of_forall_ge_iff
  intro n
  have hlt : positions dim extent stride ≤ n ↔ ¬ n + 1 ≤ positions dim extent stride := by omega
  rw [stepsToCover_le_iff h, hlt, le_positions_iff h, Int.add_sub_cancel]
  omega

/-- A window has as many positions as there are steps after which it still fits into the axis. -/
theorem ncard_positions (h : 0 < stride) (hpos : 0 ≤ positions dim extent stride) :
    (Set.ncard {k : ℤ | 0 ≤ k ∧ k * stride + extent ≤ dim} : ℤ) = positions dim extent stride := by
  have hIco : {k : ℤ | 0 ≤ k ∧ k * stride + extent ≤ dim} =
      Finset.Ico 0 (positions dim extent stride) := by
    ext k
    have hstep : k + 1 ≤ positions dim extent stride ↔ (k + 1 - 1) * stride + extent ≤ dim :=
      le_positions_iff h
    rw [Int.add_sub_cancel] at hstep
    rw [Set.mem_ofPred_eq, Finset.coe_Ico, Set.mem_Ico, ← hstep, Int.add_one_le_iff]
  rw [hIco, Set.ncard_coe_finset, Int.card_Ico, Int.sub_zero, Int.toNat_of_nonneg hpos]

theorem missingElements_nonneg (dim extent stride : ℤ) : 0 ≤ missingElements dim extent stride :=
  le_max_right _ _

/-- The missing elements are the fewest with which a window has enough positions. -/
theorem isLeast_missingElements (h : 0 < stride) :
    IsLeast {t | 0 ≤ t ∧ stepsToCover dim stride ≤ positions (dim + t) extent stride}
      (missingElements dim extent stride) := by
  simp only [le_positions_iff h]
  constructor
  · refine ⟨missingElements_nonneg dim extent stride, ?_⟩
    have hle := le_max_left ((stepsToCover dim stride - 1) * stride + extent - dim) 0
    unfold missingElements
    omega
  · rintro t ⟨hnonneg, ht⟩
    exact max_le (by omega) hnonneg

/-- With the missing elements a window has no more positions than steps. -/
theorem positions_add_missingElements (hextent : 0 < extent) (hstride : 0 < stride) :
    positions (dim + missingElements dim extent stride) extent stride =
      stepsToCover dim stride := by
  apply Int.le_antisymm
  · by_contra hlt
    have hsteps := (stepsToCover_le_iff hstride).mp (Int.le_refl (stepsToCover dim stride))
    have hmore := (le_positions_iff hstride).mp (Int.add_one_le_of_lt (Int.not_le.mp hlt))
    have hmul : (stepsToCover dim stride - 1) * stride =
        stepsToCover dim stride * stride - stride := by
      rw [Int.sub_mul, Int.one_mul]
    rw [Int.add_sub_cancel] at hmore
    unfold missingElements at hmore
    omega
  · exact (isLeast_missingElements hstride).1.2

theorem missingElements_one (hextent : 0 < extent) : missingElements dim extent 1 = extent - 1 := by
  have hsteps : stepsToCover dim 1 = dim := by
    rw [stepsToCover, Int.fdiv_one, Int.neg_neg]
  rw [missingElements, hsteps]
  omega

namespace EdgePadding

theorem low_add_high_balanced (total : ℤ) :
    (balanced total).low + (balanced total).high = total := by
  simp only [balanced]
  omega

theorem balanced_halves {total : ℤ} (h : 0 ≤ total) :
    0 ≤ (balanced total).low ∧ (balanced total).low ≤ (balanced total).high ∧
      (balanced total).high ≤ (balanced total).low + 1 := by
  simp only [balanced]
  omega

end EdgePadding

section Axes

variable {dims extents strides : List ℤ}

theorem windowAxes_cons (dim extent stride : ℤ) :
    windowAxes (dim :: dims) (extent :: extents) (stride :: strides) =
      (dim, extent, stride) :: windowAxes dims extents strides := rfl

theorem length_windowAxes (hextents : extents.length = dims.length)
    (hstrides : strides.length = dims.length) :
    (windowAxes dims extents strides).length = dims.length := by
  simp only [windowAxes, List.length_zip]
  omega

theorem map_stride_windowAxes (hextents : extents.length = dims.length)
    (hstrides : strides.length = dims.length) :
    (windowAxes dims extents strides).map (fun axis => axis.2.2) = strides := by
  have hlen : strides.length ≤ extents.length := by omega
  have hzip : (extents.zip strides).length ≤ dims.length := by
    rw [List.length_zip]
    omega
  calc (windowAxes dims extents strides).map (fun axis => axis.2.2)
      = ((dims.zip (extents.zip strides)).map Prod.snd).map Prod.snd := List.map_map.symm
    _ = (extents.zip strides).map Prod.snd := by rw [List.map_snd_zip hzip]
    _ = strides := List.map_snd_zip hlen

theorem stride_mem_of_mem_windowAxes {axis : ℤ × ℤ × ℤ}
    (h : axis ∈ windowAxes dims extents strides) : axis.2.2 ∈ strides :=
  (List.of_mem_zip (List.of_mem_zip h).2).2

end Axes

section Entries

variable {part : WindowPart} {dims entries : List ℤ}

theorem result_checkEntries_eq_ok :
    (checkEntries part dims entries).result = .ok () ↔
      entries.length = dims.length ∧ ∀ e ∈ entries, 0 < e := by
  unfold checkEntries
  split
  · rename_i hlen
    simp only [result_reject_ne_ok, hlen, false_and]
  · rename_i hlen
    rw [not_not] at hlen
    split
    · rename_i hall
      simpa [hlen] using hall
    · rename_i hall
      simpa [hlen, Outcome.fault] using hall

theorem checkEntries_eq_pure (h : (checkEntries part dims entries).result = .ok ()) :
    checkEntries part dims entries = pure () := by
  obtain ⟨hlen, hpos⟩ := result_checkEntries_eq_ok.mp h
  rw [checkEntries, if_neg (not_not.mpr hlen), if_pos (by simpa using hpos)]

theorem windowPositions_eq_pure {extents strides : List ℤ} (hextents : extents.length = dims.length)
    (hstrides : strides.length = dims.length) (hpos : ∀ e ∈ extents, 0 < e)
    (hpos' : ∀ s ∈ strides, 0 < s) :
    windowPositions dims extents strides =
      pure ((windowAxes dims extents strides).map fun (dim, extent, stride) =>
        max (positions dim extent stride) 1) := by
  rw [windowPositions, checkEntries_eq_pure (result_checkEntries_eq_ok.mpr ⟨hextents, hpos⟩),
    checkEntries_eq_pure (result_checkEntries_eq_ok.mpr ⟨hstrides, hpos'⟩)]
  rfl

end Entries

end TensorShape
