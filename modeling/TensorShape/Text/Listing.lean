/-! # Listings

Items written one after the other between brackets or parentheses, with a comma and a blank
between neighbours. A single item in parentheses is followed by a comma.
-/

namespace TensorShape.Text

def commaSeparated : List (List Char) → List Char
  | [] => []
  | [item] => item
  | item :: next :: rest => item ++ ',' :: ' ' :: commaSeparated (next :: rest)

def bracketed (items : List (List Char)) : List Char :=
  '[' :: (commaSeparated items ++ [']'])

def braced (items : List (List Char)) : List Char :=
  '{' :: (commaSeparated items ++ ['}'])

def parenthesized : List (List Char) → List Char
  | [item] => '(' :: (item ++ [',', ')'])
  | items => '(' :: (commaSeparated items ++ [')'])

def decimal : Int → List Char
  | .ofNat n => Nat.toDigits 10 n
  | .negSucc n => '-' :: Nat.toDigits 10 (n + 1)

example : parenthesized ([3, -40].map decimal) = "(3, -40)".toList := by decide +kernel

example : parenthesized ([3].map decimal) = "(3,)".toList := by decide +kernel

end TensorShape.Text
