import TensorShape.Axis.Naming

/-! # Named shapes

A shape together with one name for each of its axes. The names are axis names in every answer of an
operation; a named shape may be put together with names of any other kind as well.
-/

namespace TensorShape

class ToValue (α : Type) where
  toValue : α → Value

instance : ToValue Value := ⟨id⟩

instance : ToValue AxisName := ⟨AxisName.toValue⟩

structure LabelledShape (ν : Type) where
  dims : Shape
  names : List ν
  deriving DecidableEq

/-- A shape and the names that its axes have, if any. -/
abbrev NamedShape := LabelledShape AxisName

namespace LabelledShape

variable {ν : Type}

def rank (s : LabelledShape ν) : Nat := s.dims.length

/-- There is one name for each axis. -/
def Aligned (s : LabelledShape ν) : Prop := s.names.length = s.dims.length

def append (s t : LabelledShape ν) : LabelledShape ν := ⟨s.dims ++ t.dims, s.names ++ t.names⟩

theorem Aligned.append {s t : LabelledShape ν} (hs : s.Aligned) (ht : t.Aligned) :
    (s.append t).Aligned := by
  simp only [Aligned, LabelledShape.append, List.length_append] at *
  omega

variable [ToValue ν]

/-- Puts a shape and names together, if there is one name for each axis. -/
def build (dims : Shape) (names : List ν) : Outcome (LabelledShape ν) :=
  if names.length = dims.length then pure ⟨dims, names⟩
  else .fault (.misaligned (names.map ToValue.toValue) dims)

theorem build_eq_pure {dims : Shape} {names : List ν} (h : names.length = dims.length) :
    build dims names = pure ⟨dims, names⟩ := by
  simp [build, h]

def ofGiven (dims : Shape) (names : GivenNames) : Outcome (LabelledShape Value) := do
  let given ← names.required
  build dims given

end LabelledShape

end TensorShape
