import TensorShape.Operation

/-! # Looking up codes and operations

A code is looked up by its text and an operation by its name. What is given for them may be any
value. Operations are looked up by key, and a value that can change later is no key at all.
-/

namespace TensorShape

def Code.lookup : Value → Outcome Code
  | .text s =>
    match Code.ofText? s with
    | some c => pure c
    | none => .fault (.unknownCode (.text s))
  | other => .fault (.unknownCode other)

def Operation.lookup : Value → Outcome Operation
  | .text s =>
    match Operation.ofText? s with
    | some op => pure op
    | none => .fault (.unknownOperation (.text s))
  | other =>
    match other.changeable? with
    | some part => .fault (.changeableKey part)
    | none => .fault (.unknownOperation other)

@[simp] theorem Code.lookup_text (c : Code) : Code.lookup (.text c.text) = pure c := by
  simp [Code.lookup]

@[simp] theorem Operation.lookup_text (op : Operation) :
    Operation.lookup (.text op.text) = pure op := by
  simp [Operation.lookup]

end TensorShape
