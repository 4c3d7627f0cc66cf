import TensorShape.Padding
import TensorShape.Violation

/-! # Sliding windows

A window of a positive extent slides along an axis in steps of a positive stride. `windowPositions`
counts its positions, `balancedPadding` pads an axis so that as many positions remain as the stride
goes into the axis, rounded up.
-/

namespace TensorShape

/-- Requires one positive entry for each axis. -/
def checkEntries (part : WindowPart) (dims : Shape) (entries : List Int) : Outcome Unit :=
  if entries.length ≠ dims.length then reject (.windowCount part dims.length entries)
  else if entries.all fun entry => decide (0 < entry) then pure ()
  else .fault (.nonPositiveEntry part entries)

/-- How many steps of the stride fit behind a window that stands at the start of an axis, and one
more for the window itself. -/
def positions (dim extent stride : Int) : Int := (dim - extent).fdiv stride + 1

/-- The axes of a shape with the extents and strides of a window along them. -/
def windowAxes (dims extents strides : List Int) : List (Int × Int × Int) :=
  dims.zip (extents.zip strides)

/-- The number of positions of a window along each axis, never fewer than one. -/
def windowPositions (dims extents strides : List Int) : Outcome Shape := do
  checkEntries .extent dims extents
  checkEntries .stride dims strides
  return (windowAxes dims extents strides).map fun (dim, extent, stride) =>
    max (positions dim extent stride) 1

/-- How often a stride goes into a dimension, rounded up. -/
def stepsToCover (dim stride : Int) : Int := -(-dim).fdiv stride

/-- Padding of the given total, half of it at either edge; an odd element goes to the end. -/
def EdgePadding.balanced (total : Int) : EdgePadding := ⟨total / 2, total - total / 2⟩

/-- How many elements an axis lacks for a window to have `stepsToCover dim stride` positions. -/
def missingElements (dim extent stride : Int) : Int :=
  max ((stepsToCover dim stride - 1) * stride + extent - dim) 0

/-- The least padding, balanced, under which a window has `stepsToCover dim stride` positions along
each axis. Without strides every stride is one. -/
def balancedPadding (dims extents : List Int) (strides : Option (List Int)) :
    Outcome (List EdgePadding) := do
  checkEntries .extent dims extents
  let strides ←
    match strides with
    | none => pure (List.replicate dims.length 1)
    | some strides => do
      checkEntries .stride dims strides
      pure strides
  return (windowAxes dims extents strides).map fun (dim, extent, stride) =>
    .balanced (missingElements dim extent stride)

end TensorShape
