import TensorShape.Diagnostic.Draft
import TensorShape.Window.Part

/-! # Faults

What ends a call without a diagnostic: an argument of a wrong kind or an impossible value. A fault
is not logged. Each one belongs to a category and has a message.
-/

namespace TensorShape

inductive Category where
  | kind
  | value
  | key
  | index
  | arithmetic
  deriving DecidableEq

/-- What ends a call without a diagnostic. -/
inductive Fault where
  | nameKind
  | axisKind (found : Value)
  | namesMissing
  | misaligned (names : List Value) (dims : List Int)
  | entryTooShort (expected got : Nat)
  | entryTooLong (expected : Nat)
  | nonPositiveEntry (part : WindowPart) (entries : List Int)
  | nonPositiveStride (stride : Int) (axis : Nat)
  | axisOutside
  /-- An axis does not even fit an index, whatever the shape. -/
  | axisOversized
  | zeroStride
  | unknownCode (given : Value)
  | unknownOperation (given : Value)
  | changeableKey (part : Value)
  | notIterable (found : Value)
  | pairKind (index : Nat)
  | pairLength (index length : Nat)
  | defect (defect : Defect)

/-- The sort of mistake that a defect is: a blank text is a wrong value, all else a wrong kind. -/
def Defect.category : Defect → Category
  | .messageBlank | .noteBlank => .value
  | _ => .kind

namespace Fault

def category : Fault → Category
  | nameKind | axisKind _ | namesMissing | changeableKey _ | notIterable _ | pairKind _ => .kind
  | misaligned .. | entryTooShort .. | entryTooLong _ | nonPositiveEntry .. | nonPositiveStride ..
  | unknownCode _ | pairLength .. => .value
  | axisOutside | axisOversized => .index
  | zeroStride => .arithmetic
  | unknownOperation _ => .key
  | defect d => d.category

/-- The text that reports a fault. What is read at an axis is a tuple. -/
def message : Fault → String
  | nameKind => "axis names must be str or None"
  | axisKind found => s!"axis must be int, str, or None, got {found.kindName}"
  | namesMissing => "'NoneType' object is not iterable"
  | misaligned names dims =>
    s!"names {tupleText names} are not aligned with shape {tupleText (dims.map .int)}"
  | entryTooShort expected got => s!"not enough values to unpack (expected {expected}, got {got})"
  | entryTooLong expected => s!"too many values to unpack (expected {expected})"
  | nonPositiveEntry part entries =>
    s!"{part.text} entries must be positive, got {tupleText (entries.map .int)}"
  | nonPositiveStride stride axis =>
    s!"slice stride must be positive, got {stride} for axis {axis}"
  | axisOutside => "tuple index out of range"
  | axisOversized => "cannot fit 'int' into an index-sized integer"
  | zeroStride => "integer division or modulo by zero"
  | unknownCode given => s!"{given.literal} is not a valid ErrorCode"
  | unknownOperation given => given.literal
  | changeableKey part => s!"unhashable type: '{part.kindName}'"
  | notIterable found => s!"'{found.kindName}' object is not iterable"
  | pairKind index => s!"cannot convert dictionary update sequence element #{index} to a sequence"
  | pairLength index length =>
    s!"dictionary update sequence element #{index} has length {length}; 2 is required"
  | defect d => d.message

end Fault

end TensorShape
