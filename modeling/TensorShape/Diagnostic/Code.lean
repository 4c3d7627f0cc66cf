/-! # Diagnostic codes

The canonical causes for which an operation on shapes is rejected. Every code has a text, by which
it is reported and looked up, and a label, which is its text in capitals.
-/

namespace TensorShape

/-- Why an operation on shapes is rejected. -/
inductive Code where
  | rankMismatch
  | rankExceeded
  | axisOutOfRange
  | unknownName
  | nilAxis
  | duplicateAxes
  | unorderedAxes
  | broadcastIncompatible
  | nameConflict
  | dimensionMismatch
  | duplicateNames
  | squeezeNonUnitDim
  | emptySlice
  deriving DecidableEq

namespace Code

def all : List Code :=
  [rankMismatch, rankExceeded, axisOutOfRange, unknownName, nilAxis, duplicateAxes, unorderedAxes,
    broadcastIncompatible, nameConflict, dimensionMismatch, duplicateNames, squeezeNonUnitDim,
    emptySlice]

def text : Code → String
  | rankMismatch => "rank_mismatch"
  | rankExceeded => "rank_exceeded"
  | axisOutOfRange => "axis_out_of_range"
  | unknownName => "unknown_name"
  | nilAxis => "nil_axis"
  | duplicateAxes => "duplicate_axes"
  | unorderedAxes => "unordered_axes"
  | broadcastIncompatible => "broadcast_incompatible"
  | nameConflict => "name_conflict"
  | dimensionMismatch => "dimension_mismatch"
  | duplicateNames => "duplicate_names"
  | squeezeNonUnitDim => "squeeze_non_unit_dim"
  | emptySlice => "empty_slice"

def label (c : Code) : String := String.ofList (c.text.toList.map Char.toUpper)

def ofText? (s : String) : Option Code := all.find? fun c => c.text == s

def ofLabel? (s : String) : Option Code := all.find? fun c => c.label == s

@[simp] theorem ofText?_text (c : Code) : ofText? c.text = some c := by
  cases c <;> decide +kernel

@[simp] theorem ofLabel?_label (c : Code) : ofLabel? c.label = some c := by
  cases c <;> decide +kernel

end Code

end TensorShape
