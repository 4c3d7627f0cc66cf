import TensorShape.Removal

/-! # Contracting two shapes

Pairs of axes of equal dimension, one of each operand, are contracted: they vanish, and the result
has the remaining axes of the left operand and then those of the right. No name may be left on two
axes. An axis that counts from the end is compared but does not vanish. An axis outside its shape
is a fault, and a different one where the axis does not even fit an index.
-/

namespace TensorShape

/-- The dimension at an axis, which may count from the end. -/
def dimensionAt (dims : Shape) (axis : Int) : Outcome Int :=
  match entryFromEitherEnd? dims axis with
  | some dim => pure dim
  | none => .fault (if IndexSized axis then .axisOutside else .axisOversized)

def checkContracted (lhs rhs : Shape) (axes : Int × Int) : Outcome Unit := do
  let lhsDim ← dimensionAt lhs axes.1
  let rhsDim ← dimensionAt rhs axes.2
  if lhsDim = rhsDim then pure ()
  else reject (.contractionClash axes.1 lhsDim axes.2 rhsDim)

/-- The shape of the contraction of two tensors along pairs of axes. -/
def dot (lhs : Shape) (lhsAxes : List Int) (lhsNames : GivenNames)
    (rhs : Shape) (rhsAxes : List Int) (rhsNames : GivenNames) : Outcome NamedShape := do
  if lhsAxes.length ≠ rhsAxes.length then reject (.contractionCount lhsAxes rhsAxes)
  else
    (lhsAxes.zip rhsAxes).forM (checkContracted lhs rhs)
    let left ← removeAxes lhs lhsAxes lhsNames
    let right ← removeAxes rhs rhsAxes rhsNames
    let result := left.append right
    let repeated := repeatedNames result.names
    if repeated = [] then pure result
    else reject (.contractionNames result.names repeated)

end TensorShape
