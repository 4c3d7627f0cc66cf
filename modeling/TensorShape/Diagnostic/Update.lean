import TensorShape.Outcome

/-! # Writing values into entries

A value is written into entries as a whole: a dictionary entry by entry, and any other value that
can be gone through item by item, where each item has to be a key and a value. A key that can change
later is no key. The first item that cannot be written ends the writing.
-/

namespace TensorShape

/-- The items that a value is written by: the pairs of a dictionary, or the parts of any other
value. -/
def Value.pairs? : Value → Option (List Value)
  | .dict entries => some (entries.map fun entry => .tuple [entry.1, entry.2])
  | given => given.parts?

namespace Entries

def write (entries : Entries) (key value : Value) : Outcome Entries :=
  match key.changeable? with
  | some part => .fault (.changeableKey part)
  | none => pure (entries.insert key value)

/-- Writes the item at an index, which has to be a key and a value. -/
def writePair (entries : Entries) (item : Value) (index : Nat) : Outcome Entries :=
  match item.parts? with
  | some [key, value] => entries.write key value
  | some parts => .fault (.pairLength index parts.length)
  | none => .fault (.pairKind index)

def writePairs (entries : Entries) : (index : Nat) → List Value → Outcome Entries
  | _, [] => pure entries
  | index, item :: rest => do
    let entries ← entries.writePair item index
    writePairs entries (index + 1) rest

def merge (entries : Entries) (given : Value) : Outcome Entries :=
  match given.pairs? with
  | some items => entries.writePairs 0 items
  | none => .fault (.notIterable given)

end Entries

end TensorShape
