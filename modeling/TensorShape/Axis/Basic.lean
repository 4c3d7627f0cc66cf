import TensorShape.Value

/-! # Shapes, axis names and axis references

A shape is the list of its dimensions, one for each axis. An axis may have a name; the empty text is
a name too. A caller refers to an axis by its index, which may count from the end, or by its name.
-/

namespace TensorShape

abbrev Shape := List Int

abbrev AxisName := Option String

/-- Names as a caller gives them: none at all, or a list that has not been checked yet. -/
abbrev GivenNames := Option (List Value)

def AxisName.toValue : AxisName → Value
  | none => .null
  | some s => .text s

def AxisName.ofValue? : Value → Option AxisName
  | .null => some none
  | .text s => some (some s)
  | _ => none

@[simp] theorem AxisName.ofValue?_toValue (n : AxisName) :
    AxisName.ofValue? n.toValue = some n := by
  cases n <;> rfl

theorem AxisName.toValue_injective {m n : AxisName} (h : m.toValue = n.toValue) : m = n :=
  Option.some.inj ((ofValue?_toValue m).symm.trans (h ▸ ofValue?_toValue n))

def GivenNames.ofNames (names : Option (List AxisName)) : GivenNames :=
  names.map fun ns => ns.map AxisName.toValue

/-- What a caller refers to an axis by. -/
inductive AxisRef where
  | index (i : Int)
  | name (s : String)
  /-- The missing name, which refers to no axis. -/
  | unnamed
  | other (v : Value)

def AxisRef.ofValue : Value → AxisRef
  | .int i => .index i
  | .text s => .name s
  | .null => .unnamed
  | v => .other v

def AxisRef.toValue : AxisRef → Value
  | .index i => .int i
  | .name s => .text s
  | .unnamed => .null
  | .other v => v

def Shape.literal (dims : Shape) : String := tupleText (dims.map .int)

end TensorShape
