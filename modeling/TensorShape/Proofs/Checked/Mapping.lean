import TensorShape.Proofs.Broadcast.Mapping
import TensorShape.Proofs.Checked.Operations

/-! # Mappings with checked steps

The scan of a mapping is written out with its subscripts. It counts the axes and keeps the target of
the axis before, which is a number below all targets before there is such an axis. Where a target is
shared, the dimension of the axis before is read again; no target is shared at the first axis.
-/

namespace TensorShape.Checked

open Outcome

section Scan

variable (source target : Shape) (axes : List ℤ)

/-- An axis on the target of the axis before needs dimension one, and so does the axis before. -/
def checkShared (last : ℤ) (index : ℕ) (axis dim : ℤ) : Outcome Unit :=
  if axis = last then
    if dim ≠ 1 then reject (.mappingClash source target axes)
    else do
      let lastDim ← subscript source (index - 1)
      if lastDim ≠ 1 then reject (.mappingClash source target axes) else pure ()
  else pure ()

def checkDimension (axis dim : ℤ) : Outcome Unit :=
  if dim ≠ 1 then do
    let targetDim ← subscript target axis
    if dim ≠ targetDim then reject (.mappingClash source target axes) else pure ()
  else pure ()

def checkAxis (last : ℤ) (index : ℕ) (axis : ℤ) : Outcome Unit :=
  if axis < 0 ∨ target.length ≤ axis then reject (.mappingOutside axis target.length)
  else if axis < last then reject (.mappingOrder axes axis last)
  else do
    let dim ← subscript source index
    checkShared source target axes last index axis dim
    checkDimension source target axes axis dim

def checkAxes : (last : ℤ) → (index : ℕ) → List ℤ → Outcome Unit
  | _, _, [] => pure ()
  | last, index, axis :: rest => do
    checkAxis source target axes last index axis
    checkAxes axis (index + 1) rest

def checkMapping : Outcome Unit :=
  if axes.length ≠ source.length then reject (.mappingCount axes source.length)
  else if target.length < source.length then reject (.mappingClash source target axes)
  else checkAxes source target axes (-1) 0 axes

end Scan

def report : Option Violation → Outcome Unit
  | some v => reject v
  | none => pure ()

theorem report_or (v w : Option Violation) : report (v.or w) = report v >>= fun _ => report w := by
  cases v with
  | some v => exact (reject_bind _ _).symm
  | none => rfl

/-- The axis before an index has the target that the scan keeps, and before the first axis the scan
keeps a number that is no target. -/
inductive Precedes (source : Shape) : Option MappedAxis → ℤ → ℕ → Prop
  | first : Precedes source none (-1) 0
  | next {last dim : ℤ} {index : ℕ} : source[index]? = some dim →
    Precedes source (some (last, dim)) last (index + 1)

variable {source target : Shape} {axes : List ℤ} {previous : Option MappedAxis}
  {last axis dim : ℤ} {index : ℕ}

theorem subscript_natCast (h : source[index]? = some dim) : subscript source index = pure dim :=
  subscript_of_entryAt? h

theorem checkShared_eq (h : Precedes source previous last index) (hnonneg : 0 ≤ axis) :
    (if axis < last then reject (.mappingOrder axes axis last)
      else checkShared source target axes last index axis dim) =
      report (orderViolation? source target axes previous (axis, dim)) := by
  cases h with
  | first =>
    rw [if_neg (by omega), checkShared, if_neg (by omega)]
    rfl
  | @next _ lastDim index hlast =>
    have hindex : ((index + 1 : ℕ) : ℤ) - 1 = index := by omega
    rw [checkShared, hindex, subscript_natCast hlast]
    simp only [orderViolation?, apply_ite report, ite_and, ite_or, pure_bind]
    rfl

theorem checkDimension_eq (hwithin : 0 ≤ axis ∧ axis < target.length) :
    checkDimension source target axes axis dim =
      report (dimensionViolation? source target axes (axis, dim)) := by
  obtain ⟨targetDim, htarget⟩ := Option.isSome_iff_exists.mp (entryAt?_isSome.mpr hwithin)
  rw [checkDimension, subscript_of_entryAt? htarget]
  simp only [dimensionViolation?, htarget, apply_ite report, ite_and, pure_bind, ne_eq,
    Option.some.injEq, eq_comm]
  rfl

theorem checkAxis_eq (h : Precedes source previous last index) (hdim : source[index]? = some dim) :
    checkAxis source target axes last index axis =
      report (axisViolation? source target axes previous (axis, dim)) := by
  unfold checkAxis axisViolation?
  split
  · rfl
  · rename_i hinside
    have hwithin : 0 ≤ axis ∧ axis < target.length := by omega
    rw [report_or, ← checkShared_eq h hwithin.1, ← checkDimension_eq hwithin,
      subscript_natCast hdim, pure_bind]
    split
    · exact (reject_bind _ _).symm
    · rfl

theorem checkAxes_eq {rest : List ℤ} (h : Precedes source previous last index)
    (hlen : rest.length = (source.drop index).length) :
    checkAxes source target axes last index rest =
      report (firstViolation? source target axes previous (rest.zip (source.drop index))) := by
  induction rest generalizing previous last index with
  | nil => rfl
  | cons axis rest ih =>
    have hlt : index < source.length := by
      rw [List.length_drop, List.length_cons] at hlen
      omega
    have hdim : source[index]? = some source[index] := List.getElem?_eq_getElem hlt
    rw [List.drop_eq_getElem_cons hlt] at hlen ⊢
    rw [checkAxes, checkAxis_eq h hdim, ih (.next hdim) (Nat.succ.inj hlen), List.zip_cons_cons,
      firstViolation?, report_or]

theorem checkMapping_eq (source target : Shape) (axes : List ℤ) :
    checkMapping source target axes = TensorShape.checkMapping source target axes := by
  unfold checkMapping TensorShape.checkMapping
  split
  · rfl
  · rename_i hlen
    split
    · rfl
    · rw [checkAxes_eq .first (by simpa using hlen), List.drop_zero]
      cases firstViolation? source target axes none (axes.zip source) <;> rfl

end TensorShape.Checked
