import Mathlib.Data.Set.List
import TensorShape.Axis.Basic
import TensorShape.Diagnostic.Draft

/-! # Stored values

What can be stored in the data of a diagnostic, and what is stored as it stands. A truth value can
be an item of a sequence but is stored there as a number; everything else that can be stored is
stored as it stands, once a list is taken for a tuple.
-/

namespace TensorShape

theorem exists_mapM_eq_ok {ε α β : Type} {f : α → Except ε β} {xs : List α}
    (h : ∀ x ∈ xs, ∃ y, f x = .ok y) : ∃ ys, xs.mapM f = .ok ys := by
  induction xs with
  | nil => exact ⟨[], rfl⟩
  | cons x xs ih =>
    rw [List.forall_mem_cons] at h
    obtain ⟨y, hy⟩ := h.1
    obtain ⟨ys, hys⟩ := ih h.2
    exact ⟨y :: ys, by rw [List.mapM_cons, hy, hys]; rfl⟩

namespace Value

/-- The value can be an item of a sequence in the data of a diagnostic. -/
def IsItem (v : Value) : Prop := ∃ item, checkItem v = .ok item

def Storable (v : Value) : Prop := ∃ payload, checkValue v = .ok payload

def IsKeptItem (v : Value) : Prop := ∃ item : Item, item.toValue = v

/-- The value is stored as it stands. -/
def IsKept (v : Value) : Prop := ∃ payload : Payload, payload.toValue = v

theorem checkItem_toValue (item : Item) : checkItem item.toValue = .ok item := by
  cases item <;> rfl

theorem IsKeptItem.isItem {v : Value} (h : v.IsKeptItem) : v.IsItem := by
  obtain ⟨item, rfl⟩ := h
  exact ⟨item, checkItem_toValue item⟩

theorem mapM_checkItem_toValue (items : List Item) :
    (items.map Item.toValue).mapM checkItem = .ok items := by
  induction items with
  | nil => rfl
  | cons item items ih =>
    rw [List.map_cons, List.mapM_cons, checkItem_toValue, ih]
    rfl

theorem checkValue_toValue (payload : Payload) : checkValue payload.toValue = .ok payload := by
  cases payload with
  | sequence items =>
    rw [Payload.toValue, checkValue, mapM_checkItem_toValue]
    rfl
  | _ => rfl

theorem IsKept.storable {v : Value} (h : v.IsKept) : v.Storable := by
  obtain ⟨payload, rfl⟩ := h
  exact ⟨payload, checkValue_toValue payload⟩

theorem isKept_tuple {items : List Value} (h : ∀ v ∈ items, v.IsKeptItem) :
    (tuple items).IsKept := by
  obtain ⟨stored, rfl⟩ : items ∈ Set.range (List.map Item.toValue) := by
    rw [Set.range_list_map]
    exact h
  exact ⟨.sequence stored, rfl⟩

@[simp] theorem isKept_text (s : String) : (text s).IsKept := ⟨.text s, rfl⟩

@[simp] theorem isKept_int (n : Int) : (int n).IsKept := ⟨.int n, rfl⟩

@[simp] theorem isKept_nat (n : Nat) : (nat n).IsKept := ⟨.int n, rfl⟩

theorem isKept_map {α : Type} {f : α → Value} (h : ∀ a, (f a).IsKeptItem) (as : List α) :
    (tuple (as.map f)).IsKept :=
  isKept_tuple (List.forall_mem_map.mpr fun a _ => h a)

@[simp] theorem isKept_ints (ns : List Int) : (ints ns).IsKept :=
  isKept_map (fun n => ⟨.int n, rfl⟩) ns

@[simp] theorem isKept_texts (ss : List String) : (texts ss).IsKept :=
  isKept_map (fun s => ⟨.text s, rfl⟩) ss

theorem isKeptItem_name (n : AxisName) : n.toValue.IsKeptItem := by
  cases n with
  | none => exact ⟨.null, rfl⟩
  | some s => exact ⟨.text s, rfl⟩

@[simp] theorem isKept_names (names : List AxisName) :
    (tuple (names.map AxisName.toValue)).IsKept :=
  isKept_map isKeptItem_name names

theorem storable_tuple {items : List Value} (h : ∀ v ∈ items, v.IsItem) :
    (tuple items).Storable := by
  obtain ⟨checked, hc⟩ := exists_mapM_eq_ok h
  exact ⟨.sequence checked, by rw [checkValue, hc]; rfl⟩

end Value

end TensorShape
