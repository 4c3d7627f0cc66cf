import TensorShape.Diagnostic.Basic
import TensorShape.Diagnostic.Entries
import TensorShape.Text.Blank

/-! # Drafts

The parts of a diagnostic before they are checked. `Draft.build` accepts exactly the well-formed
drafts and otherwise names their first defect: in the code, then in the message, the help, the
related notes from left to right, and the data from left to right, each key before its value.
-/

namespace TensorShape

inductive Defect where
  | codeKind
  | messageKind
  | messageBlank
  | helpKind
  | noteKind
  | noteBlank
  | keyKind
  | itemKind
  | valueKind
  deriving DecidableEq

def Defect.message : Defect → String
  | .codeKind => "diagnostic code must be an ErrorCode"
  | .messageKind => "diagnostic message must be a string"
  | .messageBlank => "diagnostic message cannot be empty"
  | .helpKind => "diagnostic help must be a string or None"
  | .noteKind => "related diagnostics must be tuple[str, ...]"
  | .noteBlank => "related diagnostic note cannot be empty"
  | .keyKind => "diagnostic data keys must be strings"
  | .itemKind => "diagnostic data sequences must hold int, str, or None"
  | .valueKind => "diagnostic data values must be str, int, bool, or tuple entries"

/-- What is given as a code: one of the codes, or something else. -/
inductive GivenCode where
  | code (c : Code)
  | other (v : Value)

/-- The parts of a diagnostic, unchecked. -/
structure Draft where
  code : GivenCode
  message : Value
  help : Value := .null
  related : List Value := []
  data : Entries := []

def checkCode : GivenCode → Except Defect Code
  | .code c => .ok c
  | .other _ => .error .codeKind

def checkMessage : Value → Except Defect String
  | .text s => if Text.isBlank s then .error .messageBlank else .ok s
  | _ => .error .messageKind

def checkHelp : Value → Except Defect (Option String)
  | .null => .ok none
  | .text s => .ok (some s)
  | _ => .error .helpKind

def checkNote : Value → Except Defect String
  | .text s => if Text.isBlank s then .error .noteBlank else .ok s
  | _ => .error .noteKind

def checkKey : Value → Except Defect String
  | .text s => .ok s
  | _ => .error .keyKind

/-- An item of a sequence is a null, a text or a whole number; a truth value counts as one or
zero. -/
def checkItem : Value → Except Defect Item
  | .null => .ok .null
  | .text s => .ok (.text s)
  | .int n => .ok (.int n)
  | .bool b => .ok (.int (if b then 1 else 0))
  | _ => .error .itemKind

/-- A value is a text, a truth value, a whole number or a sequence of items. -/
def checkValue : Value → Except Defect Payload
  | .text s => .ok (.text s)
  | .bool b => .ok (.bool b)
  | .int n => .ok (.int n)
  | .tuple items | .list items => do return .sequence (← items.mapM checkItem)
  | _ => .error .valueKind

def checkEntry (entry : Value × Value) : Except Defect (String × Payload) := do
  let key ← checkKey entry.1
  let payload ← checkValue entry.2
  return (key, payload)

/-- The diagnostic of a draft, or the draft's first defect. -/
def Draft.build (draft : Draft) (channel : Channel) : Except Defect Diagnostic := do
  let code ← checkCode draft.code
  let message ← checkMessage draft.message
  let help ← checkHelp draft.help
  let related ← draft.related.mapM checkNote
  let data ← draft.data.mapM checkEntry
  return { channel, code, message, help, related, data }

end TensorShape
