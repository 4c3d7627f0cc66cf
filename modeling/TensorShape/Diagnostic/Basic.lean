import TensorShape.Diagnostic.Code
import TensorShape.Value

/-! # Diagnostics

A diagnostic reports a rejected operation: its code, a message, an optional help text, related
notes, and data that names the offending values. The data keeps the order in which it was given.
-/

namespace TensorShape

inductive Item where
  | null
  | int (n : Int)
  | text (s : String)
  deriving DecidableEq

/-- What the data of a diagnostic may hold under a key. -/
inductive Payload where
  | text (s : String)
  | bool (b : Bool)
  | int (n : Int)
  | sequence (items : List Item)
  deriving DecidableEq

def Item.toValue : Item → Value
  | .null => .null
  | .int n => .int n
  | .text s => .text s

def Payload.toValue : Payload → Value
  | .text s => .text s
  | .bool b => .bool b
  | .int n => .int n
  | .sequence items => .tuple (items.map Item.toValue)

/-- How far a diagnostic has been classified. -/
inductive Channel where
  | general
  | validation
  deriving DecidableEq

def Channel.text : Channel → String
  | .general => "error"
  | .validation => "validation_error"

/-- A well-formed report of a rejected operation. -/
structure Diagnostic where
  channel : Channel
  code : Code
  message : String
  help : Option String
  related : List String
  data : List (String × Payload)
  deriving DecidableEq

def Diagnostic.severity (_ : Diagnostic) : String := "error"

end TensorShape
