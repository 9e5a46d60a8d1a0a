import CodecTables.Text.Printable
import CodecTables.Text.Numeral

/-!
# Quoted text

Messages show a text between single quotes, or between double quotes if it holds a single quote and
no double one. The quote and the backslash are escaped by a backslash, the tab and the line breaks
have short escapes, and every other unprintable character is given by its code point.
-/

namespace CodecTables.Text

/-- The mark that a quoted text stands between. -/
def quoteMark (cs : List Char) : Char :=
  if cs.contains '\'' && !cs.contains '"' then '"' else '\''

/-- A code point in the shortest of the three hexadecimal escapes that holds it. -/
def codeEscape (code : Nat) : List Char :=
  if code ≤ 0xff then '\\' :: 'x' :: lowerHexDigits 2 code
  else if code ≤ 0xffff then '\\' :: 'u' :: lowerHexDigits 4 code
  else '\\' :: 'U' :: lowerHexDigits 8 code

/-- How a character stands in a quoted text with a mark around it. -/
def quotedChar (mark c : Char) : List Char :=
  if c = mark ∨ c = '\\' then ['\\', c]
  else if c = '\t' then ['\\', 't']
  else if c = '\n' then ['\\', 'n']
  else if c = '\r' then ['\\', 'r']
  else if isPrintable c then [c]
  else codeEscape c.toNat

/-- A text as messages show it. -/
def quoted (s : String) : String :=
  let cs := s.toList
  let mark := quoteMark cs
  String.ofList (mark :: cs.flatMap (quotedChar mark) ++ [mark])

/-- One byte of quoted data: an ASCII character as in a text, any other byte by its code. -/
def quotedByte (mark : Char) (b : UInt8) : List Char :=
  if b < 0x7f then quotedChar mark (Char.ofNat b.toNat) else codeEscape b.toNat

/-- Data as messages show it: a quoted text of its bytes after the letter `b`. -/
def quotedBytes (data : List UInt8) : String :=
  let mark := quoteMark (data.map fun b => Char.ofNat b.toNat)
  String.ofList ('b' :: mark :: data.flatMap (quotedByte mark) ++ [mark])

end CodecTables.Text
