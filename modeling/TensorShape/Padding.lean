import TensorShape.Axis.Basic
import TensorShape.Violation

/-! # Padding axes

An axis is padded by elements before its first one, after its last one, and between each two
neighbours. Counts may be negative; then elements are taken away.
-/

namespace TensorShape

/-- How many elements are added before, after and between those of an axis. -/
structure Padding where
  low : Int
  high : Int
  interior : Int := 0
  deriving DecidableEq

/-- How many elements are added at either edge of an axis. -/
structure EdgePadding where
  low : Int
  high : Int
  deriving DecidableEq

def EdgePadding.toPadding (p : EdgePadding) : Padding := ⟨p.low, p.high, 0⟩

def wrongLength (expected got : Nat) : Fault :=
  if got < expected then .entryTooShort expected got else .entryTooLong expected

def Padding.ofList : List Int → Outcome Padding
  | [low, high, interior] => pure ⟨low, high, interior⟩
  | entry => .fault (wrongLength 3 entry.length)

def EdgePadding.ofList : List Int → Outcome EdgePadding
  | [low, high] => pure ⟨low, high⟩
  | entry => .fault (wrongLength 2 entry.length)

def Padding.extend (p : Padding) (size : Int) : Int :=
  size + (size - 1) * p.interior + p.low + p.high

def padAxes (dims : Shape) (paddings : List Padding) : Outcome Shape :=
  if paddings.length ≠ dims.length then reject (.paddingCount dims.length paddings.length)
  else pure (List.zipWith Padding.extend paddings dims)

/-- The shape with every axis padded by the entries given for them. -/
def padEntries (dims : Shape) (entries : List (List Int)) : Outcome Shape :=
  if entries.length ≠ dims.length then reject (.paddingCount dims.length entries.length)
  else do
    let paddings ← entries.mapM Padding.ofList
    padAxes dims paddings

end TensorShape
