import Mathlib.Data.List.Zip
import TensorShape.Proofs.Padding

/-! # Paddings one after the other

A second padding also puts its interior elements between those that the first one added. So the
paddings of an axis form a monoid, which acts on the sizes of axes whether elements are added or
taken away. The paddings of a shape are multiplied axis by axis. Edges are taken away again by the
opposite edges.
-/

namespace TensorShape

open Outcome

attribute [ext] Padding

namespace Padding

instance : One Padding := ⟨⟨0, 0, 0⟩⟩

/-- One padding and then another one, as a single padding. -/
instance : Mul Padding := ⟨fun p q =>
  ⟨p.low * (1 + q.interior) + q.low, p.high * (1 + q.interior) + q.high,
    (1 + p.interior) * (1 + q.interior) - 1⟩⟩

variable (p q : Padding)

@[simp] theorem low_one : (1 : Padding).low = 0 := rfl

@[simp] theorem high_one : (1 : Padding).high = 0 := rfl

@[simp] theorem interior_one : (1 : Padding).interior = 0 := rfl

@[simp] theorem low_mul : (p * q).low = p.low * (1 + q.interior) + q.low := rfl

@[simp] theorem high_mul : (p * q).high = p.high * (1 + q.interior) + q.high := rfl

@[simp] theorem interior_mul :
    (p * q).interior = (1 + p.interior) * (1 + q.interior) - 1 := rfl

instance : Monoid Padding where
  mul_assoc p q r := by ext <;> simp only [low_mul, high_mul, interior_mul] <;> ring
  one_mul p := by ext <;> simp
  mul_one p := by ext <;> simp

theorem extend_one (size : ℤ) : (1 : Padding).extend size = size := by simp [extend]

theorem extend_mul (size : ℤ) : (p * q).extend size = q.extend (p.extend size) := by
  simp only [extend, low_mul, high_mul, interior_mul]
  ring

end Padding

namespace EdgePadding

/-- Takes away at either edge what the padding adds there. -/
def opposite (p : EdgePadding) : EdgePadding := ⟨-p.low, -p.high⟩

theorem toPadding_mul_opposite (p : EdgePadding) :
    p.toPadding * p.opposite.toPadding = 1 := by
  ext <;> simp [toPadding, opposite]

theorem map_toPadding_mul_opposite (edges : List EdgePadding) :
    List.zipWith (· * ·) (edges.map toPadding) (edges.map fun p => p.opposite.toPadding) =
      List.replicate edges.length 1 := by
  simp only [List.zipWith_map, List.zipWith_self, toPadding_mul_opposite, List.map_const']

end EdgePadding

section Axes

variable {α β : Type} {first second : List Padding} {dims : Shape}

theorem zipWith_replicate_eq_self {f : α → β → β} {a : α} (h : ∀ b, f a b = b) (bs : List β) :
    List.zipWith f (List.replicate bs.length a) bs = bs := by
  induction bs with
  | nil => rfl
  | cons b bs ih => rw [List.length_cons, List.replicate_succ, List.zipWith_cons_cons, h, ih]

theorem zipWith_mul_assoc (first second third : List Padding) :
    List.zipWith (· * ·) (List.zipWith (· * ·) first second) third =
      List.zipWith (· * ·) first (List.zipWith (· * ·) second third) := by
  simp only [List.zipWith_zipWith_left, List.zipWith_zipWith_right, mul_assoc]

theorem replicate_one_zipWith_mul (paddings : List Padding) :
    List.zipWith (· * ·) (List.replicate paddings.length 1) paddings = paddings :=
  zipWith_replicate_eq_self one_mul paddings

theorem zipWith_mul_replicate_one (paddings : List Padding) :
    List.zipWith (· * ·) paddings (List.replicate paddings.length 1) = paddings := by
  rw [List.zipWith_comm]
  exact zipWith_replicate_eq_self mul_one paddings

/-- Every axis is padded twice by the product of its paddings. -/
theorem zipWith_extend_mul (first second : List Padding) (dims : Shape) :
    List.zipWith Padding.extend (List.zipWith (· * ·) first second) dims =
      List.zipWith Padding.extend second (List.zipWith Padding.extend first dims) := by
  induction first generalizing second dims with
  | nil => simp
  | cons p first ih =>
    cases second with
    | nil => simp
    | cons q second =>
      cases dims with
      | nil => simp
      | cons d dims => simp only [List.zipWith_cons_cons, Padding.extend_mul, ih]

def padTwice (dims : Shape) (first second : List Padding) : Outcome Shape := do
  let padded ← padEntries dims (first.map Padding.toList)
  padEntries padded (second.map Padding.toList)

theorem padTwice_eq_pure (hfirst : first.length = dims.length)
    (hsecond : second.length = dims.length) :
    padTwice dims first second =
      pure (List.zipWith Padding.extend (List.zipWith (· * ·) first second) dims) := by
  have hlen : second.length = (List.zipWith Padding.extend first dims).length := by
    rw [List.length_zipWith, hfirst, Nat.min_self, hsecond]
  rw [padTwice, padEntries_eq_pure hfirst, pure_bind, padEntries_eq_pure hlen, zipWith_extend_mul]

theorem padTwice_opposite {edges : List EdgePadding} (hlen : edges.length = dims.length) :
    padTwice dims (edges.map EdgePadding.toPadding)
      (edges.map fun p => p.opposite.toPadding) = pure dims := by
  rw [padTwice_eq_pure ((List.length_map _).trans hlen) ((List.length_map _).trans hlen),
    EdgePadding.map_toPadding_mul_opposite, hlen, zipWith_replicate_eq_self Padding.extend_one]

end Axes

/-- Two paddings of a shape, one after the other, are their product. Products are associative, and
the padding that adds nothing to any axis is neutral and leaves a shape as it is. So edges that are
added and taken away again leave it as it was. -/
theorem paddings_act_as_monoid :
    (∀ (dims : Shape) (first second : List Padding), first.length = dims.length →
      second.length = dims.length → ∃ r, padTwice dims first second = pure r ∧
        padEntries dims ((List.zipWith (· * ·) first second).map Padding.toList) = pure r) ∧
    (∀ first second third : List Padding,
      List.zipWith (· * ·) (List.zipWith (· * ·) first second) third =
        List.zipWith (· * ·) first (List.zipWith (· * ·) second third)) ∧
    (∀ paddings : List Padding,
      List.zipWith (· * ·) (List.replicate paddings.length 1) paddings = paddings ∧
        List.zipWith (· * ·) paddings (List.replicate paddings.length 1) = paddings) ∧
    (∀ dims : Shape, padEntries dims (List.replicate dims.length [0, 0, 0]) = pure dims) ∧
    ∀ (dims : Shape) (edges : List EdgePadding), edges.length = dims.length →
      padTwice dims (edges.map EdgePadding.toPadding)
        (edges.map fun p => p.opposite.toPadding) = pure dims := by
  refine ⟨fun dims first second hfirst hsecond => ?_, zipWith_mul_assoc, fun paddings => ?_,
    fun dims => ?_, fun dims edges => padTwice_opposite⟩
  · have hlen : (List.zipWith (· * ·) first second).length = dims.length := by
      rw [List.length_zipWith, hfirst, hsecond, Nat.min_self]
    exact ⟨_, padTwice_eq_pure hfirst hsecond, padEntries_eq_pure hlen⟩
  · exact ⟨replicate_one_zipWith_mul paddings, zipWith_mul_replicate_one paddings⟩
  · have hone : List.replicate dims.length [0, 0, 0] =
        (List.replicate dims.length (1 : Padding)).map Padding.toList := by
      rw [List.map_replicate]
      rfl
    rw [hone, padEntries_eq_pure List.length_replicate,
      zipWith_replicate_eq_self Padding.extend_one]

/-- On the first axis each padding crops one edge, and the second one has a negative interior. The
other axis has no element, and goes further below zero. -/
theorem paddings_act_as_monoid_cropping :
    let first : List Padding := [⟨-1, 2, 2⟩, ⟨1, 0, 3⟩]
    let second : List Padding := [⟨2, -3, -1⟩, ⟨0, 1, 1⟩]
    let edges : List EdgePadding := [⟨2, 5⟩, ⟨-1, 4⟩]
    List.zipWith (· * ·) first second = [⟨2, -3, -1⟩, ⟨2, 1, 7⟩] ∧
      padTwice [3, 0] first second = pure [0, -4] ∧
      padEntries [3, 0] [[2, -3, -1], [2, 1, 7]] = pure [0, -4] ∧
      padTwice [3, 0] (edges.map EdgePadding.toPadding)
        (edges.map fun p => p.opposite.toPadding) = pure [3, 0] := by
  intro first second edges
  have hproduct : List.zipWith (· * ·) first second = [⟨2, -3, -1⟩, ⟨2, 1, 7⟩] := by decide
  have htwice : (padTwice [3, 0] first second).result = .ok [0, -4] :=
    Outcome.result_eq_ok_of_answer? (by decide +kernel)
  obtain ⟨hcompose, -, -, -, hopposite⟩ := paddings_act_as_monoid
  obtain ⟨r, hpadded, honce⟩ := hcompose [3, 0] first second rfl rfl
  obtain rfl := result_pure_eq_ok.mp (hpadded ▸ htwice)
  rw [hproduct] at honce
  exact ⟨hproduct, hpadded, honce, hopposite [3, 0] edges rfl⟩

end TensorShape
