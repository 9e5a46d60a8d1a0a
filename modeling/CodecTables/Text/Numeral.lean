import CodecTables.Text.Blank
import CodecTables.Text.Digit
import CodecTables.Text.Limit

/-!
# Written integers

Integers are written in decimal or in upper-case hexadecimal, filled up with zeros to a width that
counts the sign. They are read with blanks around them, one sign, digits of any script and single
underscores between the digits.
-/

namespace CodecTables.Text

/-- The upper-case form of a hexadecimal digit. -/
def upperDigit (c : Char) : Char :=
  if 'a' ≤ c && c ≤ 'f' then Char.ofNat (c.toNat - 32) else c

/-- The decimal digits of a natural number. -/
def decimalDigits (n : Nat) : List Char := Nat.toDigits 10 n

/-- The hexadecimal digits of a natural number, in capitals. -/
def hexDigits (n : Nat) : List Char := (Nat.toDigits 16 n).map upperDigit

/-- The lower-case hexadecimal digits of a number, at least `width` of them. -/
def lowerHexDigits (width n : Nat) : List Char :=
  let digits := Nat.toDigits 16 n
  List.replicate (width - digits.length) '0' ++ digits

/-- The sign of an integer as it is written: a minus, or nothing. -/
def signOf (n : Int) : List Char := if n < 0 then ['-'] else []

/-- The sign, then zeros, then the digits of the magnitude: `width` characters in all, or more if
the digits need them. -/
def padded (digits : Nat → List Char) (width : Nat) (n : Int) : List Char :=
  let sign := signOf n
  let written := digits n.natAbs
  sign ++ List.replicate (width - (sign.length + written.length)) '0' ++ written

/-- An integer in decimal. -/
def decimal (n : Int) : String := String.ofList (padded decimalDigits 0 n)

/-- The digits of an integer in decimal are not too many. -/
def hasDecimal (n : Int) : Bool := (decimalDigits n.natAbs).length ≤ maxDigits

/-- An integer in decimal, unless it has too many digits. -/
def decimal? (n : Int) : Except Excess String :=
  if hasDecimal n then .ok (decimal n) else .error .digits

/-- A natural number in decimal. -/
def count (n : Nat) : String := decimal n

/-- A blank that may stand around a written number. The four separators of ASCII may not. -/
def isNumberBlank (c : Char) : Bool := isBlank c && !(28 ≤ c.toNat && c.toNat ≤ 31)

/-- The text without the blanks that may stand after a number. -/
def trimNumberEnd (cs : List Char) : List Char := (cs.reverse.dropWhile isNumberBlank).reverse

/-- The text without the blanks that may stand around a number. -/
def trimNumber (cs : List Char) : List Char := trimNumberEnd (cs.dropWhile isNumberBlank)

/-- The value of a digit in a base: a digit of any script, or in base sixteen an ASCII letter. -/
def digitIn? (base : Nat) (c : Char) : Option Nat :=
  if base = 16 then hexValue? c <|> digitValue? c else digitValue? c

/-- Reads digits to the end of the text, where each underscore stands between two digits. -/
def readDigits? (base : Nat) : Nat → List Char → Option Nat
  | value, [] => some value
  | value, '_' :: c :: rest =>
    match digitIn? base c with
    | some digit => readDigits? base (base * value + digit) rest
    | none => none
  | value, c :: rest =>
    match digitIn? base c with
    | some digit => readDigits? base (base * value + digit) rest
    | none => none

/-- Reads an unsigned numeral, which holds at least one digit. -/
def readNatural? (base : Nat) : List Char → Option Nat
  | [] => none
  | '_' :: _ => none
  | cs => readDigits? base 0 cs

/-- Splits a sign off a text: whether it is negative, and the rest. -/
def splitSign : List Char → Bool × List Char
  | '-' :: rest => (true, rest)
  | '+' :: rest => (false, rest)
  | cs => (false, cs)

/-- The digits of a numeral are not too many; underscores do not count. -/
def hasFewDigits (cs : List Char) : Bool := (cs.filter (· ≠ '_')).length ≤ maxDigits

/-- Reads a decimal integer with an optional sign. -/
def readInteger? (cs : List Char) : Option Int :=
  let (negative, digits) := splitSign (trimNumber cs)
  if hasFewDigits digits then
    (readNatural? 10 digits).map fun (n : Nat) => if negative then -(n : Int) else n
  else none

/-- Reads what follows the mark `0x` of a hexadecimal integer: digits, after one underscore at
most. -/
def readHexadecimal? (cs : List Char) : Option Int :=
  let digits := match trimNumberEnd cs with
    | '_' :: rest => rest
    | rest => rest
  (readNatural? 16 digits).map Int.ofNat

end CodecTables.Text
