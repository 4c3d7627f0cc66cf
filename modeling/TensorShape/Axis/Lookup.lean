import TensorShape.Axis.Naming

/-! # Looking up axes

A reference to an axis resolves to the index of the axis, counted from the front. A list of
references resolves only if no two of them mean one axis.
-/

namespace TensorShape

/-- The index of the axis that a reference means. A name means the first axis that has it; names
are not checked for their number or kind. -/
def AxisRef.resolve (dims : Shape) (names : GivenNames) : AxisRef → Outcome Int
  | .unnamed => reject .unnamedAxis
  | .other v => .fault (.axisKind v)
  | .name s => do
    let given ← names.required
    match given.findIdx? (Value.isText s) with
    | some i => pure i
    | none => reject (.unknownName s given)
  | .index i =>
    if 0 ≤ i ∧ i < dims.length then pure i
    else if i < 0 ∧ -i ≤ dims.length then pure (dims.length + i)
    else reject (.axisOutside i dims.length)

/-- The indices of distinct axes, in the order of the references. -/
def resolveAxes (dims : Shape) (axes : List AxisRef) (names : GivenNames) :
    Outcome (List Int) := do
  let resolved ← axes.mapM (AxisRef.resolve dims names)
  if resolved.Nodup then pure resolved
  else reject (.repeatedAxes axes dims.length resolved)

theorem AxisRef.resolve_index {dims : Shape} {names : GivenNames} {i : Int} (h : 0 ≤ i)
    (h' : i < dims.length) : (AxisRef.index i).resolve dims names = pure i := by
  simp [resolve, h, h']

end TensorShape
