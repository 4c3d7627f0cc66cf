import TensorShape.Value

/-! # Ordered entries

Keys with their values in the order in which the keys first came. Writing to a text that is already
a key replaces the value and keeps the place. Keys that are no texts are kept as they come: nothing
reads them back, and a diagnostic refuses them.
-/

namespace TensorShape

/-- Keys and values in the order of the keys' first appearance. -/
abbrev Entries := List (Value × Value)

namespace Entries

def sameText : Value → Value → Bool
  | .text s, .text t => s == t
  | _, _ => false

def insert (key value : Value) : Entries → Entries
  | [] => [(key, value)]
  | (k, v) :: rest =>
    if sameText key k then (k, value) :: rest else (k, v) :: insert key value rest

def update (entries : Entries) (further : List (Value × Value)) : Entries :=
  further.foldl (fun acc entry => acc.insert entry.1 entry.2) entries

/-- The entries that writing the given ones in order leaves. -/
def ofList (given : List (Value × Value)) : Entries := update [] given

@[simp] theorem update_cons (entries : Entries) (k v : Value) (rest : List (Value × Value)) :
    entries.update ((k, v) :: rest) = (entries.insert k v).update rest := rfl

@[simp] theorem sameText_text (s t : String) :
    sameText (.text s) (.text t) = true ↔ s = t := by
  simp [sameText]

theorem insert_head (s : String) (v w : Value) (rest : Entries) :
    insert (.text s) w ((.text s, v) :: rest) = (.text s, w) :: rest := by
  simp [insert]

theorem insert_of_forall {key : Value} (value : Value) {entries : Entries}
    (h : ∀ e ∈ entries, sameText key e.1 = false) :
    insert key value entries = entries ++ [(key, value)] := by
  induction entries with
  | nil => rfl
  | cons e rest ih =>
    simp only [List.forall_mem_cons] at h
    simp [insert, h.1, ih h.2]

end Entries

end TensorShape
