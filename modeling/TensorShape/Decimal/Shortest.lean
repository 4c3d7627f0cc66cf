/-! # Shortest decimals

A finite floating-point number is `mantissa * 2 ^ exponent`, and the real numbers that round to it
form an interval around it. `shortest` is the decimal of the fewest digits in that interval; of two
such decimals it is the one nearer to the number, and of two equally near ones the even one. All
comparisons are made in whole numbers.
-/

namespace TensorShape

/-- The size of a finite floating-point number, `mantissa * 2 ^ exponent`. -/
structure BinaryFloat where
  mantissa : Nat
  exponent : Int
  /-- The neighbour below is only half as far away as the one above. -/
  narrow : Bool
  deriving DecidableEq

def BinaryFloat.ofBits? (bits : Nat) : Option BinaryFloat :=
  let fraction : Nat := bits % Nat.pow 2 52
  let biased : Nat := bits / Nat.pow 2 52 % Nat.pow 2 11
  if biased = 2047 then none
  else if biased = 0 then some ⟨fraction, -1074, false⟩
  else some ⟨Nat.pow 2 52 + fraction, (biased : Int) - 1075, fraction == 0 && 1 < biased⟩

structure Decimal where
  coefficient : Nat
  exponent : Int
  deriving DecidableEq

/-- Whether `a * 10 ^ p ≤ b * 2 ^ q`. -/
def Decimal.leBinary (a : Nat) (p : Int) (b : Nat) (q : Int) : Bool :=
  a * Nat.pow 10 p.toNat * Nat.pow 2 (-q).toNat ≤ b * Nat.pow 2 q.toNat * Nat.pow 10 (-p).toNat

/-- Whether `b * 2 ^ q ≤ a * 10 ^ p`. -/
def Decimal.geBinary (a : Nat) (p : Int) (b : Nat) (q : Int) : Bool :=
  b * Nat.pow 2 q.toNat * Nat.pow 10 (-p).toNat ≤ a * Nat.pow 10 p.toNat * Nat.pow 2 (-q).toNat

/-- The decimal rounds to the number: it lies between the midpoints to the two neighbours, which
themselves round to the number of even mantissa. -/
def Decimal.roundsTo (d : Decimal) (x : BinaryFloat) : Bool :=
  let below := 4 * x.mantissa - if x.narrow then 1 else 2
  let above := 4 * x.mantissa + 2
  let q := x.exponent - 2
  if x.mantissa % 2 = 0 then
    geBinary d.coefficient d.exponent below q && leBinary d.coefficient d.exponent above q
  else
    !leBinary d.coefficient d.exponent below q && !geBinary d.coefficient d.exponent above q

def BinaryFloat.floorAt (x : BinaryFloat) (p : Int) : Nat :=
  x.mantissa * Nat.pow 2 x.exponent.toNat * Nat.pow 10 (-p).toNat /
    (Nat.pow 2 (-x.exponent).toNat * Nat.pow 10 p.toNat)

/-- How many digits the number has before the point; zero or less where it is below one tenth.
Every positive number in double precision exceeds `10 ^ -400`. -/
def BinaryFloat.magnitude (x : BinaryFloat) : Int :=
  (Nat.toDigits 10 (x.floorAt (-400))).length - 400

/-- The neighbour of the number among the decimals of the given exponent, if one rounds to it: the
nearer of two, the even one of two equally near. -/
def BinaryFloat.nearestAt? (x : BinaryFloat) (p : Int) : Option Decimal :=
  let low : Decimal := ⟨x.floorAt p, p⟩
  let high : Decimal := ⟨low.coefficient + 1, p⟩
  match low.roundsTo x, high.roundsTo x with
  | false, false => none
  | true, false => some low
  | false, true => some high
  | true, true =>
    let middle := 2 * low.coefficient + 1
    let q := x.exponent + 1
    if Decimal.geBinary middle p x.mantissa q &&
        (!Decimal.leBinary middle p x.mantissa q || low.coefficient % 2 = 0)
    then some low
    else some high

/-- Moves trailing zeros of the coefficient into the exponent, at most `fuel` of them. -/
def Decimal.trim (d : Decimal) : (fuel : Nat) → Decimal
  | 0 => d
  | fuel + 1 =>
    if d.coefficient ≠ 0 ∧ d.coefficient % 10 = 0 then
      trim ⟨d.coefficient / 10, d.exponent + 1⟩ fuel
    else d

/-- The decimal of the fewest digits that rounds to the number; seventeen digits always suffice. -/
def BinaryFloat.shortest (x : BinaryFloat) : Decimal :=
  let found := (List.range 17).findSome? fun (digits : Nat) =>
    x.nearestAt? (x.magnitude - (digits + 1))
  (found.getD ⟨0, 0⟩).trim 17

example : (BinaryFloat.ofBits? 0x3FB999999999999A).map BinaryFloat.shortest = some ⟨1, -1⟩ := by
  decide +kernel

example : (BinaryFloat.ofBits? 1).map BinaryFloat.shortest = some ⟨5, -324⟩ := by decide +kernel

end TensorShape
