import TensorShape.Fault

/-! # Outcomes

What a call leaves behind: the records it logged, and its answer or the failure that ended it. A
failure is a diagnostic or a fault. Calls are sequenced by `do`: the records are joined in order,
and the first failure ends the sequence.
-/

namespace TensorShape

structure LogRecord where
  operation : Value
  code : Code
  message : Value

def LogRecord.line (r : LogRecord) : String :=
  s!"DEBUG:shapealg.policy:rejected {r.operation.display} ({r.code.text}): {r.message.display}"

/-- What ends a call. -/
inductive Failure where
  | rejected (d : Diagnostic)
  | fault (f : Fault)

/-- The records that a call logged, and how it ended. -/
@[ext] structure Outcome (α : Type) where
  log : List LogRecord
  result : Except Failure α

namespace Outcome

variable {α β : Type}

/-- Sequencing joins the records and stops at the first failure. -/
instance : Monad Outcome where
  pure a := ⟨[], .ok a⟩
  bind x f :=
    match x.result with
    | .ok a => ⟨x.log ++ (f a).log, (f a).result⟩
    | .error e => ⟨x.log, .error e⟩

def fail (e : Failure) : Outcome α := ⟨[], .error e⟩

def fault (f : Fault) : Outcome α := fail (.fault f)

def record (r : LogRecord) : Outcome Unit := ⟨[r], .ok ()⟩

/-- A diagnostic, or the fault of not being able to build one. -/
def ofBuild : Except Defect Diagnostic → Outcome Diagnostic
  | .ok d => pure d
  | .error e => fault (.defect e)

@[simp] theorem result_pure (a : α) : (pure a : Outcome α).result = .ok a := rfl

@[simp] theorem result_fail (e : Failure) : (fail e : Outcome α).result = .error e := rfl

@[simp] theorem fail_bind (e : Failure) (f : α → Outcome β) : fail e >>= f = fail e := rfl

@[simp] theorem fault_bind (e : Fault) (f : α → Outcome β) : fault e >>= f = fault e := rfl

@[simp] theorem record_bind (r : LogRecord) (f : Unit → Outcome β) :
    record r >>= f = ⟨r :: (f ()).log, (f ()).result⟩ := rfl

theorem bind_of_ok {x : Outcome α} {a : α} (h : x.result = .ok a) (f : α → Outcome β) :
    x >>= f = ⟨x.log ++ (f a).log, (f a).result⟩ := by
  simp [bind, h]

theorem bind_of_error {x : Outcome α} {e : Failure} (h : x.result = .error e)
    (f : α → Outcome β) : x >>= f = ⟨x.log, .error e⟩ := by
  simp [bind, h]

instance : LawfulMonad Outcome :=
  LawfulMonad.mk' Outcome
    (fun x => by
      obtain ⟨log, _ | a⟩ := x
      · rfl
      · exact Outcome.ext (by simp [Functor.map]) rfl)
    (fun a f => by simp [bind, pure])
    (fun x f g => by
      obtain ⟨log, _ | a⟩ := x
      · rfl
      · simp only [bind]
        cases (f a).result <;> simp)

theorem result_bind_eq_ok {x : Outcome α} {f : α → Outcome β} {b : β} :
    (x >>= f).result = .ok b ↔ ∃ a, x.result = .ok a ∧ (f a).result = .ok b := by
  obtain ⟨log, _ | a⟩ := x <;> simp [bind]

/-- A sequence fails when its first call does, or when that succeeds and the second one fails. -/
theorem result_bind_eq_error {x : Outcome α} {f : α → Outcome β} {e : Failure} :
    (x >>= f).result = .error e ↔
      x.result = .error e ∨ ∃ a, x.result = .ok a ∧ (f a).result = .error e := by
  obtain ⟨log, _ | a⟩ := x <;> simp [bind]

end Outcome

end TensorShape
