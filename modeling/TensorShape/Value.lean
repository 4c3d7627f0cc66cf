import TensorShape.Decimal.Notation
import TensorShape.Text.Listing
import TensorShape.Text.Quoted

/-! # Values

What a caller may hand in where an axis name, an axis or a part of a diagnostic is expected, before
anything is known about it. A value has a written form, which the messages of diagnostics quote.
A tuple is a sequence that is fixed for good, where a list can change later.
-/

namespace TensorShape

/-- A value of unknown kind. -/
inductive Value where
  | null
  | bool (b : Bool)
  | int (n : Int)
  | float (x : Float)
  | text (s : String)
  | tuple (items : List Value)
  | list (items : List Value)
  | dict (entries : List (Value × Value))

namespace Value

instance : Inhabited Value := ⟨.null⟩

def ints (ns : List Int) : Value := .tuple (ns.map .int)

def texts (ss : List String) : Value := .tuple (ss.map .text)

def nat (n : Nat) : Value := .int n

def keyed (entries : List (String × Value)) : Value :=
  .dict (entries.map fun entry => (.text entry.1, entry.2))

def isText (s : String) : Value → Bool
  | .text t => t == s
  | _ => false

theorem isText_iff {s : String} {v : Value} : isText s v = true ↔ v = .text s := by
  cases v <;> simp [isText]

/-- What going through a value gives: the characters of a text, the items of a sequence or the keys
of a dictionary. -/
def parts? : Value → Option (List Value)
  | .text s => some (s.toList.map fun c => .text (String.singleton c))
  | .tuple items | .list items => some items
  | .dict entries => some (entries.map Prod.fst)
  | _ => none

/-- The value, or another in place of a null. -/
def orElse : Value → Value → Value
  | .null, other => other
  | value, _ => value

@[simp] theorem null_orElse (v : Value) : orElse .null v = v := rfl

@[simp] theorem text_orElse (s : String) (v : Value) : orElse (.text s) v = .text s := rfl

def kindName : Value → String
  | .null => "NoneType"
  | .bool _ => "bool"
  | .int _ => "int"
  | .float _ => "float"
  | .text _ => "str"
  | .tuple _ => "tuple"
  | .list _ => "list"
  | .dict _ => "dict"

mutual

def chars : Value → List Char
  | .null => "None".toList
  | .bool true => "True".toList
  | .bool false => "False".toList
  | .int n => Text.decimal n
  | .float x => Decimal.charsOfBits x.toBits.toNat
  | .text s => Text.quoted s.toList
  | .tuple items => Text.parenthesized (itemChars items)
  | .list items => Text.bracketed (itemChars items)
  | .dict entries => Text.braced (entryChars entries)

def itemChars : List Value → List (List Char)
  | [] => []
  | item :: rest => item.chars :: itemChars rest

def entryChars : List (Value × Value) → List (List Char)
  | [] => []
  | (key, value) :: rest => (key.chars ++ ':' :: ' ' :: value.chars) :: entryChars rest

end

theorem itemChars_eq_map (items : List Value) : itemChars items = items.map chars := by
  induction items with
  | nil => rfl
  | cons item rest ih => simp [itemChars, ih]

theorem chars_bool (b : Bool) : chars (.bool b) = (if b then "True" else "False").toList := by
  cases b <;> rfl

theorem chars_int (n : Int) : chars (.int n) = Text.decimal n := rfl

theorem chars_text (s : String) : chars (.text s) = Text.quoted s.toList := rfl

theorem chars_tuple (items : List Value) :
    chars (.tuple items) = Text.parenthesized (items.map chars) := by
  rw [← itemChars_eq_map]
  rfl

theorem chars_list (items : List Value) :
    chars (.list items) = Text.bracketed (items.map chars) := by
  rw [← itemChars_eq_map]
  rfl

def literal (v : Value) : String := String.ofList v.chars

/-- A text as it stands, and the written form of any other value. -/
def display : Value → String
  | .text s => s
  | v => v.literal

mutual

/-- The first part of a value that can change later: the value itself, or an item of a tuple. -/
def changeable? : Value → Option Value
  | .list items => some (.list items)
  | .dict entries => some (.dict entries)
  | .tuple items => changeableItem? items
  | _ => none

def changeableItem? : List Value → Option Value
  | [] => none
  | item :: rest =>
    match item.changeable? with
    | some part => some part
    | none => changeableItem? rest

end

end Value

def listText (items : List Value) : String := (Value.list items).literal

def tupleText (items : List Value) : String := (Value.tuple items).literal

end TensorShape
