import TensorShape.Axis.Naming
import TensorShape.NamedShape

/-! # Broadcasting two shapes against each other

Two shapes are aligned at their last axes, and missing axes count as axes of dimension one without a
name. Aligned dimensions are equal or one of them is one; the larger one is that of the result.
Aligned names are merged, but only where the dimensions fit.
-/

namespace TensorShape

/-- Two aligned dimensions that cannot be broadcast against each other. -/
def Clashing (dims : Int × Int) : Prop := dims.1 ≠ 1 ∧ dims.2 ≠ 1 ∧ dims.1 ≠ dims.2

instance (dims : Int × Int) : Decidable (Clashing dims) := inferInstanceAs (Decidable (_ ∧ _))

/-- Two lists aligned at their ends; the shorter one is filled up at its front. -/
def align {α : Type} (fill : α) (xs ys : List α) : List (α × α) :=
  (xs.leftpad (max xs.length ys.length) fill).zip (ys.leftpad (max xs.length ys.length) fill)

/-- The common shape of two shapes whose names have been assigned. -/
def join (lhs rhs : NamedShape) : Outcome NamedShape := do
  let dims := align 1 lhs.dims rhs.dims
  if dims.any (decide <| Clashing ·) then reject (.pairClash lhs.dims rhs.dims)
  else
    let names ← (align none lhs.names rhs.names).mapM fun names => AxisName.merge names.1 names.2
    LabelledShape.build (dims.map fun pair => max pair.1 pair.2) names

/-- The common shape of two shapes. A shape broadcast against itself is left as it is. -/
def broadcast (lhs : Shape) (lhsNames : GivenNames) (rhs : Shape) (rhsNames : GivenNames) :
    Outcome NamedShape := do
  let left ← lhsNames.assign lhs
  let right ← rhsNames.assign rhs
  if lhs = rhs ∧ left = right then pure ⟨lhs, left⟩
  else join ⟨lhs, left⟩ ⟨rhs, right⟩

end TensorShape
