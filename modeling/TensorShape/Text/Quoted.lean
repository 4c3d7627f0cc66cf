import TensorShape.Text.Printable

/-! # Quoted texts

A quoted text stands between two quotes. The quote is `'`, unless the text holds a `'` and no `"`;
then it is `"`. Inside, the quote and the backslash follow a backslash, tab, line feed and carriage
return are written `\t`, `\n` and `\r`, and every other character that is not printable is written
by its code point with two, four or eight hexadecimal digits.
-/

namespace TensorShape.Text

def hexDigit (n : Nat) : Char :=
  Char.ofNat (if n < 10 then 48 + n else 87 + n)

/-- The last `width` hexadecimal digits of a number, leading zeros kept. -/
def hexDigits : (width : Nat) → Nat → List Char
  | 0, _ => []
  | width + 1, n => hexDigits width (n / 16) ++ [hexDigit (n % 16)]

/-- A code point as an escape of the least width that holds it. -/
def escapeCode (n : Nat) : List Char :=
  if n < 0x100 then '\\' :: 'x' :: hexDigits 2 n
  else if n < 0x10000 then '\\' :: 'u' :: hexDigits 4 n
  else '\\' :: 'U' :: hexDigits 8 n

def escapeChar (quote c : Char) : List Char :=
  if c = quote ∨ c = '\\' then ['\\', c]
  else if c = '\t' then ['\\', 't']
  else if c = '\n' then ['\\', 'n']
  else if c = '\r' then ['\\', 'r']
  else if isPrintable c then [c]
  else escapeCode c.toNat

def quoteFor (cs : List Char) : Char :=
  if '\'' ∈ cs ∧ '"' ∉ cs then '"' else '\''

def quoted (cs : List Char) : List Char :=
  let quote := quoteFor cs
  quote :: (cs.flatMap (escapeChar quote) ++ [quote])

example : quoted "it's".toList = "\"it's\"".toList := by decide +kernel

example : quoted "a\t'\"\u00a0é".toList = "'a\\t\\'\"\\xa0é'".toList := by decide +kernel

end TensorShape.Text
