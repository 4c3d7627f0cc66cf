import TensorShape.Violation

/-! # Naming axes

Given names are checked against a shape, names of aligned axes are merged, and names that stand on
more than one axis are found.
-/

namespace TensorShape

def GivenNames.required : GivenNames → Outcome (List Value)
  | none => .fault .namesMissing
  | some given => pure given

/-- One name for each axis of a shape: the given names, or none on any axis. -/
def GivenNames.assign (names : GivenNames) (dims : Shape) : Outcome (List AxisName) :=
  match names with
  | none => pure (List.replicate dims.length none)
  | some given =>
    if given.length ≠ dims.length then reject (.nameCount dims.length given)
    else
      match given.mapM AxisName.ofValue? with
      | some names => pure names
      | none => .fault .nameKind

/-- The name of two aligned axes. An axis without a name takes that of the other. -/
def AxisName.merge : AxisName → AxisName → Outcome AxisName
  | none, rhs => pure rhs
  | some s, none => pure (some s)
  | some s, some t => if s = t then pure (some s) else reject (.nameConflict s t)

/-- What a scan for repeated names keeps: the names it has seen, and those it has seen again. -/
structure NameScan where
  seen : List String
  repeated : List String

/-- The scan takes one more name and passes over an axis without one. -/
def NameScan.next (scan : NameScan) : AxisName → NameScan
  | none => scan
  | some s =>
    { seen := scan.seen.insert s
      repeated :=
        if s ∈ scan.seen ∧ s ∉ scan.repeated then scan.repeated ++ [s] else scan.repeated }

/-- The names that stand on more than one axis, each once, in the order of their second
occurrences. -/
def repeatedNames (names : List AxisName) : List String :=
  (names.foldl NameScan.next ⟨[], []⟩).repeated

/-- The repeated ones among names that may not be given. -/
def repeatedGiven : Option (List AxisName) → Outcome (List String)
  | none => .fault .namesMissing
  | some names => pure (repeatedNames names)

theorem GivenNames.assign_ofNames_some {names : List AxisName} {dims : Shape}
    (h : names.length = dims.length) : (ofNames (some names)).assign dims = pure names := by
  have hm : (names.map AxisName.toValue).mapM AxisName.ofValue? = some names := by
    induction names generalizing dims with
    | nil => rfl
    | cons n rest ih =>
      obtain _ | ⟨d, ds⟩ := dims
      · simp at h
      · simp [ih (Nat.succ.inj h)]
  simp [assign, ofNames, h, hm]

@[simp] theorem GivenNames.assign_none (dims : Shape) :
    assign none dims = pure (List.replicate dims.length none) := rfl

@[simp] theorem AxisName.merge_self (n : AxisName) : n.merge n = pure n := by
  cases n <;> simp [merge]

end TensorShape
