import TensorShape.Axis.Selection
import TensorShape.Violation

/-! # Broadcasting along a mapping

A mapping lists, for each axis of a source shape, the axis of the target shape that it is broadcast
to. Its targets ascend, and only axes of dimension one may share a target. The dimension of a source
axis is one or that of its target.
-/

namespace TensorShape

/-- A source axis under a mapping: its target and its dimension. -/
abbrev MappedAxis := Int × Int

section

variable (source target : Shape) (axes : List Int)

/-- A target may not come before the one that precedes it, and axes of one target have
dimension one. -/
def orderViolation? : (previous : Option MappedAxis) → MappedAxis → Option Violation
  | none, _ => none
  | some (last, lastDim), (axis, dim) =>
    if axis < last then some (.mappingOrder axes axis last)
    else if axis = last ∧ (dim ≠ 1 ∨ lastDim ≠ 1) then some (.mappingClash source target axes)
    else none

/-- A dimension other than one is that of its target. -/
def dimensionViolation? (current : MappedAxis) : Option Violation :=
  if current.2 ≠ 1 ∧ entryAt? target current.1 ≠ some current.2 then
    some (.mappingClash source target axes)
  else none

def axisViolation? (previous : Option MappedAxis) (current : MappedAxis) : Option Violation :=
  if current.1 < 0 ∨ target.length ≤ current.1 then
    some (.mappingOutside current.1 target.length)
  else
    (orderViolation? source target axes previous current).or
      (dimensionViolation? source target axes current)

/-- What is wrong with the first source axis with which anything is. -/
def firstViolation? : (previous : Option MappedAxis) → List MappedAxis → Option Violation
  | _, [] => none
  | previous, current :: rest =>
    (axisViolation? source target axes previous current).or (firstViolation? (some current) rest)

/-- Requires the mapping to broadcast the source shape to the target shape. -/
def checkMapping : Outcome Unit :=
  if axes.length ≠ source.length then reject (.mappingCount axes source.length)
  else if target.length < source.length then reject (.mappingClash source target axes)
  else
    match firstViolation? source target axes none (axes.zip source) with
    | some v => reject v
    | none => pure ()

def trailingAxes : Outcome (List Int) :=
  if target.length < source.length then reject (.rankExceeded source target)
  else
    pure ((List.range source.length).map fun i => ((target.length - source.length + i : Nat) : Int))

end

end TensorShape
