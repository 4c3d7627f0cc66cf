import TensorShape.Axis.Basic
import TensorShape.Operation

/-! # Violations

The rules that an operation on shapes may find broken, each with the values that break it. A
violation knows the operation that finds it, its code, its message, its help where it has one of
its own, and its data. `reject` ends a call with the diagnostic of a violation.
-/

namespace TensorShape

/-- A broken rule, with the values that break it. -/
inductive Violation where
  | nameCount (rank : Nat) (names : List Value)
  | unnamedAxis
  | unknownName (axis : String) (names : List Value)
  | axisOutside (axis : Int) (rank : Nat)
  | repeatedAxes (axes : List AxisRef) (rank : Nat) (resolved : List Int)
  | nameConflict (lhs rhs : String)
  | mappingCount (axes : List Int) (rank : Nat)
  | mappingOutside (axis : Int) (rank : Nat)
  | mappingOrder (axes : List Int) (axis previous : Int)
  | mappingClash (source target : Shape) (axes : List Int)
  | rankExceeded (source target : Shape)
  | pairClash (lhs rhs : Shape)
  | contractionCount (lhsAxes rhsAxes : List Int)
  | contractionClash (lhsAxis lhsDim rhsAxis rhsDim : Int)
  | contractionNames (names : List AxisName) (repeated : List String)
  | permutationCount (permutation : List Int) (rank : Nat)
  | permutationOutside (axis : Int) (rank : Nat)
  | nonUnitDim (axis : Nat) (size : Int)
  | paddingCount (rank entries : Nat)
  | sliceCount (rank : Nat) (start limit stride : List Int)
  | emptySlice (axis : Nat) (start limit stride : Int)
  | windowCount (part : WindowPart) (rank : Nat) (entries : List Int)
  | kernelRank (input kernel : Shape)
  | convolutionCount (part : ConvolutionPart) (spatialRank entries : Nat)

namespace Violation

def operation : Violation → Operation
  | nameCount .. => .naming
  | unnamedAxis | unknownName .. | axisOutside .. => .axisLookup
  | repeatedAxes .. => .axisListing
  | nameConflict .. => .nameMerge
  | mappingCount .. | mappingOutside .. | mappingOrder .. | mappingClash .. => .axisMapping
  | rankExceeded .. => .trailingMapping
  | pairClash .. => .pairing
  | contractionCount .. | contractionClash .. | contractionNames .. => .contraction
  | permutationCount .. | permutationOutside .. => .permutation
  | nonUnitDim .. => .unitRemoval
  | paddingCount .. => .padding
  | sliceCount .. | emptySlice .. => .slicing
  | windowCount .. => .windowing
  | kernelRank .. | convolutionCount .. => .convolution

def code : Violation → Code
  | nameCount .. | mappingCount .. | contractionCount .. | permutationCount .. | paddingCount ..
  | sliceCount .. | windowCount .. | kernelRank .. | convolutionCount .. => .rankMismatch
  | unnamedAxis => .nilAxis
  | unknownName .. => .unknownName
  | axisOutside .. | mappingOutside .. | permutationOutside .. => .axisOutOfRange
  | repeatedAxes .. => .duplicateAxes
  | nameConflict .. => .nameConflict
  | mappingOrder .. => .unorderedAxes
  | mappingClash .. | pairClash .. => .broadcastIncompatible
  | rankExceeded .. => .rankExceeded
  | contractionClash .. => .dimensionMismatch
  | contractionNames .. => .duplicateNames
  | nonUnitDim .. => .squeezeNonUnitDim
  | emptySlice .. => .emptySlice

def message : Violation → String
  | nameCount rank _ =>
    s!"invalid names for tensor of rank {rank}, when specifying names " ++
      "every dimension must have a name or be None"
  | unnamedAxis => "axis name cannot be None"
  | unknownName axis names =>
    s!"key {(Value.text axis).literal} not found in tensor with names {listText names}"
  | axisOutside axis rank => s!"given axis ({axis}) invalid for shape with rank {rank}"
  | repeatedAxes axes rank _ =>
    s!"axes {listText (axes.map AxisRef.toValue)} must be unique integers between 0 and " ++
      s!"{(rank : Int) - 1}"
  | nameConflict lhs rhs =>
    s!"cannot merge names {(Value.text lhs).literal}, {(Value.text rhs).literal}"
  | mappingCount axes rank =>
    s!"expected length of axes ({axes.length}) to match rank of shape ({rank})"
  | mappingOutside axis rank =>
    s!"broadcast axis ({axis}) invalid for target shape with rank {rank}"
  | mappingOrder _ axis previous =>
    s!"broadcast axes must be ordered, got {axis} after {previous}"
  | mappingClash source target axes =>
    s!"cannot broadcast tensor of dimensions {source.literal} to {target.literal} " ++
      s!"with axes {listText (axes.map .int)}"
  | rankExceeded source target =>
    s!"cannot broadcast tensor of dimensions {source.literal} to {target.literal}"
  | pairClash lhs rhs =>
    s!"cannot broadcast tensor of dimensions {lhs.literal} to {rhs.literal}"
  | contractionCount lhsAxes rhsAxes =>
    "dot/zip expects the same number of axes on both sides, got " ++
      s!"{lhsAxes.length} and {rhsAxes.length}"
  | contractionClash lhsAxis lhsDim rhsAxis rhsDim =>
    "dot/zip expects shapes to be compatible, " ++
      s!"dimension {lhsAxis} of left-side ({lhsDim}) does not equal " ++
      s!"dimension {rhsAxis} of right-side ({rhsDim})"
  | contractionNames names _ =>
    s!"operation would result in duplicate names {listText (names.map AxisName.toValue)}, " ++
      "please rename your tensors to avoid duplicates"
  | permutationCount permutation rank =>
    s!"expected length of permutation ({permutation.length}) to match rank of shape ({rank})"
  | permutationOutside axis rank =>
    s!"permutation axis ({axis}) invalid for shape with rank {rank}"
  | nonUnitDim axis size =>
    s!"cannot squeeze dimensions whose sizes are not 1, got {size} for dimension {axis}"
  | paddingCount .. =>
    "invalid padding configuration, rank of padding configuration and shape must match"
  | sliceCount rank start limit stride =>
    "invalid slice, start, limit and stride must have one entry per axis, got " ++
      s!"{start.length}, {limit.length} and {stride.length} for rank {rank}"
  | emptySlice .. =>
    "start and limit indices would result in 0 or negative dimension size, " ++
      "limit indices must be greater than start indices"
  | windowCount part rank entries =>
    s!"invalid {part.text} dimensions, rank of shape ({rank}) does not match " ++
      s!"rank of {part.text} ({entries.length})"
  | kernelRank input kernel =>
    s!"invalid kernel dimensions {kernel.literal} for input of dimensions {input.literal}, " ++
      "both need batch/channel axes and the same rank"
  | convolutionCount part spatialRank entries =>
    s!"invalid {part.text} dimensions, convolution has {spatialRank} spatial axes " ++
      s!"but got {entries} {part.text} entries"

/-- The help of a violation that the template of its operation does not give. -/
def help? : Violation → Option String
  | unnamedAxis => some "address unnamed axes by index"
  | axisOutside _ rank => some s!"use an axis in [{-(rank : Int)}, {rank})"
  | mappingOrder .. => some "sort broadcast axes ascending"
  | contractionNames .. => some "rename axes so contracted operands keep distinct names"
  | windowCount part .. => some s!"pass one {part.text} entry per axis"
  | _ => none

def data : Violation → List (String × Value)
  | nameCount rank names => [("rank", .nat rank), ("names", .tuple names)]
  | unnamedAxis => []
  | unknownName axis names => [("axis", .text axis), ("names", .tuple names)]
  | axisOutside axis rank | mappingOutside axis rank | permutationOutside axis rank =>
    [("axis", .int axis), ("rank", .nat rank)]
  | repeatedAxes axes _ resolved =>
    [("axes", .tuple (axes.map AxisRef.toValue)), ("normalized", .ints resolved)]
  | nameConflict lhs rhs => [("lhs_name", .text lhs), ("rhs_name", .text rhs)]
  | mappingCount axes rank => [("axes", .ints axes), ("rank", .nat rank)]
  | mappingOrder axes axis previous =>
    [("axes", .ints axes), ("axis", .int axis), ("previous_axis", .int previous)]
  | mappingClash source target axes =>
    [("old_shape", .ints source), ("new_shape", .ints target), ("axes", .ints axes)]
  | rankExceeded source target => [("shape", .ints source), ("new_shape", .ints target)]
  | pairClash lhs rhs => [("lhs_shape", .ints lhs), ("rhs_shape", .ints rhs)]
  | contractionCount lhsAxes rhsAxes =>
    [("lhs_axes", .ints lhsAxes), ("rhs_axes", .ints rhsAxes)]
  | contractionClash lhsAxis lhsDim rhsAxis rhsDim =>
    [("lhs_axis", .int lhsAxis), ("lhs_dim", .int lhsDim), ("rhs_axis", .int rhsAxis),
      ("rhs_dim", .int rhsDim)]
  | contractionNames names repeated =>
    [("names", .tuple (names.map AxisName.toValue)), ("duplicates", .texts repeated)]
  | permutationCount permutation rank =>
    [("permutation", .ints permutation), ("rank", .nat rank)]
  | nonUnitDim axis size => [("axis", .nat axis), ("size", .int size)]
  | paddingCount rank entries => [("rank", .nat rank), ("config_rank", .nat entries)]
  | sliceCount rank start limit stride =>
    [("rank", .nat rank), ("start", .ints start), ("limit", .ints limit),
      ("stride", .ints stride)]
  | emptySlice axis start limit stride =>
    [("axis", .nat axis), ("start", .int start), ("limit", .int limit), ("stride", .int stride)]
  | windowCount part rank entries =>
    [("kind", .text part.text), ("rank", .nat rank), (part.text, .ints entries)]
  | kernelRank input kernel => [("input_shape", .ints input), ("kernel_shape", .ints kernel)]
  | convolutionCount part spatialRank entries =>
    [("kind", .text part.text), ("spatial_rank", .nat spatialRank), ("got", .nat entries)]

def diagnose (v : Violation) : Outcome Diagnostic :=
  v.operation.template.diagnose v.code (.text v.message) ((v.help?.map Value.text).getD .null)
    (.keyed v.data)

def record (v : Violation) : LogRecord := ⟨.text v.operation.text, v.code, .text v.message⟩

end Violation

/-- Ends a call with the diagnostic of a violation. -/
def reject {α : Type} (v : Violation) : Outcome α := do
  let d ← v.diagnose
  Outcome.fail (.rejected d)

@[simp] theorem reject_bind {α β : Type} (v : Violation) (f : α → Outcome β) :
    reject v >>= f = reject v := by
  simp only [reject, bind_assoc, Outcome.fail_bind]

theorem result_reject_ne_ok {α : Type} (v : Violation) (a : α) :
    (reject v : Outcome α).result ≠ .ok a := by
  simp [reject, Outcome.result_bind_eq_ok]

end TensorShape
