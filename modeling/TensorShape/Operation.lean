import TensorShape.Diagnostic.Template

/-! # Operations

The operations that reject shapes, each with the name it is reported by and the template of
its diagnostics.
-/

namespace TensorShape

inductive Operation where
  | naming
  | axisLookup
  | axisListing
  | nameMerge
  | axisMapping
  | trailingMapping
  | pairing
  | contraction
  | permutation
  | unitRemoval
  | padding
  | slicing
  | windowing
  | convolution
  deriving DecidableEq

namespace Operation

def all : List Operation :=
  [naming, axisLookup, axisListing, nameMerge, axisMapping, trailingMapping, pairing, contraction,
    permutation, unitRemoval, padding, slicing, windowing, convolution]

def text : Operation → String
  | naming => "named_axes"
  | axisLookup => "normalize_axis"
  | axisListing => "normalize_axes"
  | nameMerge => "merge_names"
  | axisMapping => "broadcast_check"
  | trailingMapping => "default_broadcast_axes"
  | pairing => "binary_broadcast"
  | contraction => "zip_reduce"
  | permutation => "transpose"
  | unitRemoval => "squeeze"
  | padding => "pad"
  | slicing => "slice_shape"
  | windowing => "window"
  | convolution => "conv"

def related : Operation → List String
  | naming => ["axis names"]
  | axisLookup | axisListing => ["axis normalization"]
  | nameMerge => ["name merge"]
  | axisMapping | trailingMapping => ["broadcast axes mapping"]
  | pairing => ["binary broadcast", "right-aligned dimensions"]
  | contraction => ["dot/zip contraction"]
  | permutation => ["transpose permutation"]
  | unitRemoval => ["squeeze axes"]
  | padding => ["padding configuration"]
  | slicing => ["slice indices"]
  | windowing => ["window dimensions"]
  | convolution => ["convolution shape"]

/-- The help that an operation's diagnostics give where they bring none of their own. -/
def help? : Operation → Option String
  | naming => some "give every dimension a name or None"
  | axisListing => some "pass each axis at most once"
  | nameMerge => some "rename one of the tensors so aligned axes agree"
  | axisMapping => some "each source dimension must be 1 or equal its target dimension"
  | pairing => some "aligned dimensions must be equal or 1"
  | permutation => some "pass one source axis per output position"
  | unitRemoval => some "only axes of size 1 can be squeezed"
  | padding => some "pass one (low, high, interior) entry per axis"
  | slicing => some "limit indices must be greater than start indices"
  | axisLookup | trailingMapping | contraction | windowing | convolution => none

def template (op : Operation) : Template where
  operation := .text op.text
  related := op.related.map .text
  help := (op.help?.map Value.text).getD .null

def ofText? (s : String) : Option Operation := all.find? fun op => op.text == s

@[simp] theorem ofText?_text (op : Operation) : ofText? op.text = some op := by
  cases op <;> decide +kernel

end Operation

end TensorShape
