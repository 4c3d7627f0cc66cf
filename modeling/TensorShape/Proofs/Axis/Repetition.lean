import Mathlib.Data.List.Induction
import Mathlib.Data.List.Nodup
import Mathlib.Data.List.ReduceOption
import TensorShape.Axis.Naming

/-! # Repeated names

The names that are found repeated are those at the positions where a name stands for the second
time, in the order of these positions. Each name has at most one such position, and it has one
exactly if it stands there twice or more; so there is none exactly if the names that are there are
distinct. What is found does not depend on the names that follow.
-/

namespace TensorShape

def secondOccurrence? (names : List AxisName) (i : ℕ) : Option String :=
  names[i]?.join.filter fun s => (names.take i).count (some s) = 1

/-- The names at the positions of all second occurrences, ascending. -/
def secondOccurrences (names : List AxisName) : List String :=
  (List.range names.length).filterMap (secondOccurrence? names)

theorem count_reduceOption (names : List AxisName) (s : String) :
    names.reduceOption.count s = names.count (some s) := by
  induction names with
  | nil => rfl
  | cons n names ih =>
    cases n with
    | none => simpa using ih
    | some t => simp [List.count_cons, ih]

variable {names : List AxisName} {s : String} {i j : ℕ}

/-- The name stands at the position, and at exactly one position before it. -/
def StandsSecondAt (names : List AxisName) (s : String) (i : ℕ) : Prop :=
  names[i]? = some (some s) ∧ (names.take i).count (some s) = 1

theorem secondOccurrence?_eq_some_iff :
    secondOccurrence? names i = some s ↔ StandsSecondAt names s i := by
  simp only [secondOccurrence?, Option.filter_eq_some_iff, Option.join_eq_some_iff,
    decide_eq_true_eq, StandsSecondAt]

theorem mem_secondOccurrences_iff :
    s ∈ secondOccurrences names ↔ ∃ i, StandsSecondAt names s i := by
  simp only [secondOccurrences, List.mem_filterMap, List.mem_range,
    secondOccurrence?_eq_some_iff]
  refine ⟨fun ⟨i, _, h⟩ => ⟨i, h⟩, fun ⟨i, h⟩ => ⟨i, ?_, h⟩⟩
  exact (List.getElem?_eq_some_iff.mp h.1).1

namespace StandsSecondAt

theorem count_take_succ (h : StandsSecondAt names s i) :
    (names.take (i + 1)).count (some s) = 2 := by
  rw [List.take_add_one, h.1, Option.toList_some, List.count_append, h.2,
    List.count_singleton_self]

theorem append (h : StandsSecondAt names s i) (more : List AxisName) :
    StandsSecondAt (names ++ more) s i := by
  have hi := (List.getElem?_eq_some_iff.mp h.1).1
  refine ⟨(List.getElem?_append_left hi).trans h.1, ?_⟩
  rw [List.take_append_of_le_length (Nat.le_of_lt hi)]
  exact h.2

theorem le (hi : StandsSecondAt names s i) (hj : StandsSecondAt names s j) : j ≤ i := by
  by_contra hlt
  have hle := (List.take_sublist_take_left (l := names) (Nat.lt_of_not_le hlt)).count_le (some s)
  rw [hi.count_take_succ, hj.2] at hle
  omega

theorem unique (hi : StandsSecondAt names s i) (hj : StandsSecondAt names s j) : i = j :=
  Nat.le_antisymm (hj.le hi) (hi.le hj)

end StandsSecondAt

theorem exists_standsSecondAt_iff :
    (∃ i, StandsSecondAt names s i) ↔ 2 ≤ names.count (some s) := by
  constructor
  · rintro ⟨i, h⟩
    exact h.count_take_succ ▸ (List.take_sublist (i + 1) names).count_le (some s)
  · intro h
    induction names using List.reverseRecOn with
    | nil => exact absurd h (by simp)
    | append_singleton names n ih =>
      by_cases hnames : 2 ≤ names.count (some s)
      · obtain ⟨i, hi⟩ := ih hnames
        exact ⟨i, hi.append [n]⟩
      · rw [List.count_append, List.count_singleton] at h
        split at h
        · rename_i hn
          refine ⟨names.length, ?_, ?_⟩
          · rw [List.getElem?_concat_length, beq_iff_eq.mp hn]
          · rw [List.take_left]
            omega
        · omega

theorem mem_secondOccurrences_iff_count :
    s ∈ secondOccurrences names ↔ 2 ≤ names.count (some s) :=
  mem_secondOccurrences_iff.trans exists_standsSecondAt_iff

section Scan

theorem filterMap_secondOccurrence?_append (names more : List AxisName) :
    (List.range names.length).filterMap (secondOccurrence? (names ++ more)) =
      secondOccurrences names := by
  refine List.filterMap_congr fun i hi => ?_
  have hlt := List.mem_range.mp hi
  rw [secondOccurrence?, secondOccurrence?, List.getElem?_append_left hlt,
    List.take_append_of_le_length (Nat.le_of_lt hlt)]

theorem secondOccurrences_concat (names : List AxisName) (n : AxisName) :
    secondOccurrences (names ++ [n]) =
      secondOccurrences names ++ (n.filter fun s => names.count (some s) = 1).toList := by
  have hlast : secondOccurrence? (names ++ [n]) names.length =
      n.filter fun s => names.count (some s) = 1 := by
    rw [secondOccurrence?, List.getElem?_concat_length, Option.join_some, List.take_left]
  rw [secondOccurrences, List.length_append, List.length_singleton, List.range_succ,
    List.filterMap_append, filterMap_secondOccurrence?_append, List.filterMap_cons,
    List.filterMap_nil, hlast]
  cases n.filter fun s => names.count (some s) = 1 <;> rfl

/-- The scan of the names: it has seen those that are there, and again those that stand there for
the second time. -/
structure NameScan.Of (names : List AxisName) (scan : NameScan) : Prop where
  mem_seen : ∀ s, s ∈ scan.seen ↔ some s ∈ names
  repeated_eq : scan.repeated = secondOccurrences names

theorem NameScan.Of.next {scan : NameScan} (h : scan.Of names) (n : AxisName) :
    (scan.next n).Of (names ++ [n]) := by
  cases n with
  | none =>
    constructor
    · simpa [NameScan.next] using h.mem_seen
    · simpa [NameScan.next, secondOccurrences_concat] using h.repeated_eq
  | some s =>
    have hagain : s ∈ scan.seen ∧ s ∉ scan.repeated ↔ names.count (some s) = 1 := by
      rw [h.mem_seen, h.repeated_eq, mem_secondOccurrences_iff_count, ← List.count_pos_iff]
      omega
    constructor
    · intro t
      rw [NameScan.next, List.mem_insert_iff, h.mem_seen, List.mem_append, List.mem_singleton,
        Option.some.injEq, or_comm]
    · rw [NameScan.next, secondOccurrences_concat, Option.filter_some, ← h.repeated_eq]
      by_cases hcount : names.count (some s) = 1
      · simp [hagain, hcount]
      · simp [hagain, hcount]

theorem NameScan.of_foldl (names : List AxisName) :
    (names.foldl NameScan.next ⟨[], []⟩).Of names := by
  induction names using List.reverseRecOn with
  | nil => exact ⟨by simp, rfl⟩
  | append_singleton names n ih =>
    rw [List.foldl_append, List.foldl_cons, List.foldl_nil]
    exact ih.next n

theorem repeatedNames_eq_secondOccurrences (names : List AxisName) :
    repeatedNames names = secondOccurrences names :=
  (NameScan.of_foldl names).repeated_eq

end Scan

theorem repeatedNames_eq_nil_iff : repeatedNames names = [] ↔ names.reduceOption.Nodup := by
  simp only [repeatedNames_eq_secondOccurrences, List.eq_nil_iff_forall_not_mem,
    mem_secondOccurrences_iff_count, List.nodup_iff_count_le_one, count_reduceOption,
    Nat.not_le, Nat.lt_succ_iff]

theorem pairwise_repeatedNames (names : List AxisName) : (repeatedNames names).Pairwise fun s t =>
    ∃ i j, i < j ∧ StandsSecondAt names s i ∧ StandsSecondAt names t j := by
  rw [repeatedNames_eq_secondOccurrences, secondOccurrences, List.pairwise_filterMap]
  refine List.pairwise_lt_range.imp fun hlt s hs t ht => ⟨_, _, hlt, ?_, ?_⟩
  · exact secondOccurrence?_eq_some_iff.mp hs
  · exact secondOccurrence?_eq_some_iff.mp ht

theorem nodup_repeatedNames (names : List AxisName) : (repeatedNames names).Nodup := by
  refine (pairwise_repeatedNames names).imp ?_
  rintro s t ⟨i, j, hlt, hi, hj⟩ rfl
  exact Nat.ne_of_lt hlt (hi.unique hj)

theorem repeatedNames_append_prefix (names more : List AxisName) :
    repeatedNames names <+: repeatedNames (names ++ more) := by
  rw [repeatedNames_eq_secondOccurrences, repeatedNames_eq_secondOccurrences,
    ← filterMap_secondOccurrence?_append names more, secondOccurrences, List.length_append,
    List.range_add, List.filterMap_append]
  exact List.prefix_append _ _

/-- A name is found repeated exactly if it stands on two axes or more, and an axis without a name
repeats nothing. Each repeated name is found once, in the order in which they stand for the second
time. None is found exactly if the names that are there are distinct, and further axes leave what
was found in its place and add to its end. -/
theorem repeated_names_once_in_order (names : List AxisName) :
    let found := repeatedNames names
    (∀ n : AxisName, n ∈ found.map some ↔ n ≠ none ∧ 2 ≤ names.count n) ∧
    found.Nodup ∧
    (found.Pairwise fun s t =>
      ∃ i j, i < j ∧ StandsSecondAt names s i ∧ StandsSecondAt names t j) ∧
    (found = [] ↔ names.reduceOption.Nodup) ∧
    ∀ more, found <+: repeatedNames (names ++ more) := by
  intro found
  refine ⟨fun n => ?_, nodup_repeatedNames names,
    pairwise_repeatedNames names, repeatedNames_eq_nil_iff, repeatedNames_append_prefix names⟩
  cases n with
  | none => simp
  | some s =>
    have hfound : s ∈ found ↔ 2 ≤ names.count (some s) := by
      rw [← mem_secondOccurrences_iff_count, ← repeatedNames_eq_secondOccurrences]
    rw [List.mem_map_of_injective (fun _ _ => Option.some.inj), hfound]
    simp

/-- The names come in the order of their second occurrences, not of their first ones. -/
example : repeatedNames [some "a", none, some "b", some "b", some "a", none, some "b"] =
    ["b", "a"] := by
  decide

end TensorShape
