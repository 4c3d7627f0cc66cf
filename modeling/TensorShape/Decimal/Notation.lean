import TensorShape.Decimal.Shortest

/-! # Decimal notation

How a floating-point number is written: by its shortest decimal, with all digits in place from
`0.0001` up to but not including `10 ^ 16`, and with one digit before the point and an exponent
outside that range. A number in place always has a digit on either side of the point.
-/

namespace TensorShape

/-- The digits of a decimal in place; `point` of them stand before the point. -/
def Decimal.inPlace (digits : List Char) (point : Int) : List Char :=
  if point ≤ 0 then
    '0' :: '.' :: (List.replicate (-point).toNat '0' ++ digits)
  else if point.toNat < digits.length then
    digits.take point.toNat ++ '.' :: digits.drop point.toNat
  else
    digits ++ List.replicate (point.toNat - digits.length) '0' ++ ['.', '0']

def Decimal.exponentText (e : Int) : List Char :=
  let digits := Nat.toDigits 10 e.natAbs
  'e' :: (if e < 0 then '-' else '+') :: (List.replicate (2 - digits.length) '0' ++ digits)

def Decimal.withExponent (digits : List Char) (e : Int) : List Char :=
  match digits with
  | first :: next :: rest => first :: '.' :: next :: (rest ++ exponentText e)
  | few => few ++ exponentText e

def Decimal.chars (d : Decimal) : List Char :=
  let digits := Nat.toDigits 10 d.coefficient
  let point : Int := if d.coefficient = 0 then 1 else digits.length + d.exponent
  if -4 < point ∧ point ≤ 16 then inPlace digits point else withExponent digits (point - 1)

def Decimal.charsOfBits (bits : Nat) : List Char :=
  let sign := if bits / Nat.pow 2 63 % 2 = 1 then ['-'] else []
  match BinaryFloat.ofBits? bits with
  | some x => sign ++ x.shortest.chars
  | none => if bits % Nat.pow 2 52 = 0 then sign ++ "inf".toList else "nan".toList

example : Decimal.charsOfBits 0x3FE0000000000000 = "0.5".toList := by decide +kernel

example : Decimal.charsOfBits 0x4341C37937E08000 = "1e+16".toList := by decide +kernel

example : Decimal.charsOfBits 0x8000000000000000 = "-0.0".toList := by decide +kernel

end TensorShape
