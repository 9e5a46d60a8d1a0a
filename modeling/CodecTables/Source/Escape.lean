import CodecTables.Text.Numeral

/-!
# String literals

The content of a string literal. The backslash, the double quote and the common line controls have
short escapes; every other control character is given by three octal digits, so that no character
after it is taken for a digit of its own.
-/

namespace CodecTables.Source

/-- The last three octal digits of a number. -/
def octal3 (n : Nat) : List Char :=
  [Nat.digitChar (n / 64 % 8), Nat.digitChar (n / 8 % 8), Nat.digitChar (n % 8)]

/-- How a character stands in a string literal. -/
def escapeChar (c : Char) : List Char :=
  if c = '\\' then ['\\', '\\']
  else if c = '"' then ['\\', '"']
  else if c = '\n' then ['\\', 'n']
  else if c = '\r' then ['\\', 'r']
  else if c = '\t' then ['\\', 't']
  else if c.toNat < 0x20 ∨ c.toNat = 0x7f then '\\' :: octal3 c.toNat
  else [c]

/-- A text as it stands between the quotes of a string literal. -/
def escape (s : String) : String := String.ofList (s.toList.flatMap escapeChar)

end CodecTables.Source
