import TensorShape.Diagnostic.Update

/-! # Templates

A template holds what the diagnostics of one operation have in common: the name of the operation,
which goes into the data and the log, the related notes, and the help that is given where a
diagnostic brings none of its own. A rejection under a template is logged once, whether or not its
diagnostic can be built. Data that cannot be written ends the call before.
-/

namespace TensorShape

/-- What the diagnostics of one operation have in common. -/
structure Template where
  operation : Value
  related : List Value := []
  help : Value := .null

namespace Template

/-- The record of a rejection, which is logged whether or not its diagnostic can be built. -/
def record (t : Template) (code : Code) (message : Value) : LogRecord :=
  ⟨t.operation, code, message⟩

/-- The data of a diagnostic: the operation, and then what is given, which may replace it. -/
def data (t : Template) (given : Value) : Outcome Entries :=
  let own : Entries := [(.text "operation", t.operation)]
  match given with
  | .null => pure own
  | given => own.merge given

def draft (t : Template) (code : Code) (message help : Value) (data : Entries) : Draft where
  code := .code code
  message := message
  help := help.orElse t.help
  related := t.related
  data := data

/-- Logs a rejection and builds its diagnostic, once its data is there. -/
def diagnose (t : Template) (code : Code) (message help given : Value) : Outcome Diagnostic := do
  let data ← t.data given
  Outcome.record (t.record code message)
  Outcome.ofBuild ((t.draft code message help data).build .validation)

/-- Exactly one record is logged, also where no diagnostic can be built, and a diagnostic comes out
exactly as its draft builds. -/
theorem diagnose_of_data {t : Template} {given : Value} {data : Entries}
    (h : t.data given = pure data) (code : Code) (message help : Value) :
    t.diagnose code message help given =
      ⟨[t.record code message],
        (Outcome.ofBuild ((t.draft code message help data).build .validation)).result⟩ := by
  rw [diagnose, h, pure_bind, Outcome.record_bind]
  cases (t.draft code message help data).build .validation <;> rfl

end Template

end TensorShape
