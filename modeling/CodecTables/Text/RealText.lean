import CodecTables.Text.Numeral

/-!
# Written real numbers

A real number is written in decimal with an optional point and exponent, or as the word for a value
that is no number or for an infinity.
-/

namespace CodecTables.Text

/-- The ASCII form of a text: digits of any script become ASCII digits. -/
def asciiDigits (cs : List Char) : List Char :=
  cs.map fun c => match digitValue? c with
    | some digit => Char.ofNat (48 + digit)
    | none => c

/-- Removes single underscores between two ASCII digits; refuses any other underscore. -/
def dropUnderscores? : Char → List Char → Option (List Char)
  | _, [] => some []
  | before, '_' :: c :: rest =>
    if before.isDigit && c.isDigit then (dropUnderscores? c rest).map (c :: ·) else none
  | _, ['_'] => none
  | _, c :: rest => (dropUnderscores? c rest).map (c :: ·)

/-- The words for values without digits, in lower case. -/
def realWords : List (List Char) := ["inf".toList, "infinity".toList, "nan".toList]

/-- An exponent: nothing, or a mark, an optional sign and at least one digit. -/
def isExponent : List Char → Bool
  | [] => true
  | c :: rest =>
    let digits := (splitSign rest).2
    (c = 'e' || c = 'E') && !digits.isEmpty && digits.all Char.isDigit

/-- A decimal: digits with an optional point, at least one digit in all, then an exponent. -/
def isDecimal (cs : List Char) : Bool :=
  let whole := cs.takeWhile Char.isDigit
  let rest := cs.dropWhile Char.isDigit
  let (fraction, exponent) := match rest with
    | '.' :: tail => (tail.takeWhile Char.isDigit, tail.dropWhile Char.isDigit)
    | _ => ([], rest)
  !(whole.isEmpty && fraction.isEmpty) && isExponent exponent

/-- Accepts the texts that write a real number, blanks around them included. -/
def isRealText (cs : List Char) : Bool :=
  match dropUnderscores? ' ' (asciiDigits (trimNumber cs)) with
  | none => false
  | some text =>
    let unsigned := (splitSign text).2
    realWords.contains (unsigned.map Char.toLower) || isDecimal unsigned

end CodecTables.Text
