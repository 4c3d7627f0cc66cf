import TensorShape.Axis.Naming
import TensorShape.Axis.Selection
import TensorShape.NamedShape

/-! # Permuting axes

A permutation lists, for each axis of the result, the axis it comes from. Its entries have to lie
within the shape; that they differ is not asked, so an axis may come twice and another not at all.
-/

namespace TensorShape

/-- The shape with its axes in the order that the permutation lists them. -/
def permute (dims : Shape) (permutation : List Int) (names : GivenNames) :
    Outcome NamedShape := do
  let names ← names.assign dims
  if permutation.length ≠ dims.length then reject (.permutationCount permutation dims.length)
  else
    match permutation.find? fun axis => decide (axis < 0 ∨ (dims.length : Int) ≤ axis) with
    | some axis => reject (.permutationOutside axis dims.length)
    | none => LabelledShape.build (selectAxes permutation dims) (selectAxes permutation names)

def reversedAxes (dims : Shape) : List Int :=
  (List.range dims.length).reverse.map Int.ofNat

end TensorShape
