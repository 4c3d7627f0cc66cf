/-! # Selecting by axis

A list that has one entry for each axis of a shape is read at an axis, rearranged along a list of
axes, or thinned by the axes that are to go. Nothing here checks the axes: an axis that is no
position of the list selects nothing and drops nothing.
-/

namespace TensorShape

variable {α β : Type}

/-- The entry at an axis that counts from the front. -/
def entryAt? (xs : List α) : Int → Option α
  | .ofNat i => xs[i]?
  | .negSucc _ => none

/-- The entry at an axis that counts from the front or, where negative, from the end. -/
def entryFromEitherEnd? (xs : List α) : Int → Option α
  | .ofNat i => xs[i]?
  | .negSucc i => xs.reverse[i]?

/-- An axis fits an index: it is a signed number of 64 bits. -/
def IndexSized (i : Int) : Prop := -0x8000000000000000 ≤ i ∧ i < 0x8000000000000000

instance (i : Int) : Decidable (IndexSized i) := inferInstanceAs (Decidable (_ ∧ _))

/-- The entries at the given axes, in the order of the axes. -/
def selectAxes (axes : List Int) (xs : List α) : List α :=
  axes.filterMap (entryAt? xs)

/-- The entries at all positions that are not among the axes, in order. -/
def eraseAxes (axes : List Int) (xs : List α) : List α :=
  (xs.zipIdx.filter fun entry => decide ((entry.2 : Int) ∉ axes)).map Prod.fst

@[simp] theorem selectAxes_nil (xs : List α) : selectAxes [] xs = [] := rfl

@[simp] theorem eraseAxes_nil (axes : List Int) : eraseAxes axes ([] : List α) = [] := rfl

theorem entryAt?_isSome {xs : List α} {i : Int} :
    (entryAt? xs i).isSome ↔ 0 ≤ i ∧ i < xs.length := by
  cases i with
  | ofNat i => simp [entryAt?]
  | negSucc i => simp [entryAt?]

theorem entryFromEitherEnd?_isSome {xs : List α} {i : Int} :
    (entryFromEitherEnd? xs i).isSome ↔ -(xs.length : Int) ≤ i ∧ i < xs.length := by
  cases i with
  | ofNat i => simp [entryFromEitherEnd?]
  | negSucc i => simp [entryFromEitherEnd?]; omega

theorem map_selectAxes (f : α → β) (axes : List Int) (xs : List α) :
    (selectAxes axes xs).map f = selectAxes axes (xs.map f) := by
  simp only [selectAxes, List.map_filterMap]
  congr 1
  funext i
  cases i <;> simp [entryAt?]

theorem map_eraseAxes (f : α → β) (axes : List Int) (xs : List α) :
    (eraseAxes axes xs).map f = eraseAxes axes (xs.map f) := by
  simp only [eraseAxes, List.zipIdx_map, List.filter_map, List.map_map]
  rfl

theorem eraseAxes_sublist (axes : List Int) (xs : List α) : (eraseAxes axes xs).Sublist xs := by
  have h := (List.filter_sublist (l := xs.zipIdx)
    (p := fun entry => decide ((entry.2 : Int) ∉ axes))).map Prod.fst
  rwa [List.zipIdx_map_fst] at h

end TensorShape
