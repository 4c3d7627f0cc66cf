import TensorShape.Violation

/-! # Slicing axes

A slice selects, along each axis, the positions from a start up to but not including a limit, in
steps of a positive stride. It has to select something along every axis; how large the sliced shape
is does not matter.
-/

namespace TensorShape

structure Slice where
  start : Int
  limit : Int
  stride : Int
  deriving DecidableEq

/-- How many positions a slice selects; not positive where it selects none. -/
def Slice.count (s : Slice) : Int := -(s.start - s.limit).fdiv s.stride

def Slice.size (s : Slice) (axis : Nat) : Outcome Int :=
  if s.stride ≤ 0 then .fault (.nonPositiveStride s.stride axis)
  else if s.count ≤ 0 then reject (.emptySlice axis s.start s.limit s.stride)
  else pure s.count

def Slice.ofLists (start limit stride : List Int) : List Slice :=
  List.zipWith (fun start (rest : Int × Int) => ⟨start, rest.1, rest.2⟩) start (limit.zip stride)

/-- The shape that slices of the given parts select, from a shape whose rank is that of `dims` where
these are given. -/
def slice (start limit stride : List Int) (dims : Option Shape) : Outcome Shape :=
  let rank := (dims.getD start).length
  if start.length = rank ∧ limit.length = rank ∧ stride.length = rank then
    (Slice.ofLists start limit stride).zipIdx.mapM fun entry => entry.1.size entry.2
  else reject (.sliceCount rank start limit stride)

end TensorShape
