import TensorShape.Axis.Naming
import TensorShape.Axis.Selection
import TensorShape.NamedShape

/-! # Removing axes

`removeAxes` drops axes whatever their dimensions, as a contraction does. `removeUnitAxes` drops
only axes of dimension one and rejects any other. Both ignore an axis that is no position of the
shape, and both keep the order of what is left.
-/

namespace TensorShape

def removeAxes (dims : Shape) (axes : List Int) (names : GivenNames) : Outcome NamedShape := do
  let names ← names.assign dims
  LabelledShape.build (eraseAxes axes dims) (eraseAxes axes names)

def unitAxes (dims : Shape) : List Int :=
  (dims.zipIdx.filter fun entry => entry.1 == 1).map fun entry => (entry.2 : Int)

/-- Copies the axes from an index on behind those that were kept before. A listed axis is left out,
which ends the call where its dimension is not one. -/
def copyUnlisted (axes : List Int) :
    (index : Nat) → (kept : NamedShape) → List (Int × AxisName) → Outcome NamedShape
  | _, kept, [] => pure kept
  | index, kept, (size, name) :: rest =>
    if (index : Int) ∉ axes then
      copyUnlisted axes (index + 1) ⟨kept.dims ++ [size], kept.names ++ [name]⟩ rest
    else if size ≠ 1 then reject (.nonUnitDim index size)
    else copyUnlisted axes (index + 1) kept rest

/-- The shape without the given axes, all of which have dimension one. -/
def removeUnitAxes (dims : Shape) (axes : List Int) (names : GivenNames) :
    Outcome NamedShape := do
  let names ← names.assign dims
  let kept ← copyUnlisted axes 0 ⟨[], []⟩ (dims.zip names)
  LabelledShape.build kept.dims kept.names

end TensorShape
