import CodecTables.Data.Calendar
import CodecTables.Text.Numeral
import CodecTables.Text.Quoted

/-!
# Values of options

An indentation is a tab or a number of spaces. A timestamp is a date and a time of day with points,
blanks and colons between the parts.
-/

namespace CodecTables.CommandLine

open Data (Moment)

/-- Why a value is not taken: it is not one of those that are expected, or too large. -/
inductive BadValue where
  | refused (reason : String)
  | excess (e : Text.Excess)

/-- The indentation that a value stands for: a tab, or so many spaces. -/
def readIndent (text : String) : Except BadValue String :=
  if text = "tab" then .ok "\t"
  else
    match Text.readInteger? text.toList with
    | none => .error (.refused ("expected 'tab' or a number, got " ++ Text.quoted text))
    | some width =>
      if width < 0 then .error (.refused "indent width must not be negative")
      else match Text.lengthOf .count width with
        | .ok length => .ok (String.ofList (List.replicate length ' '))
        | .error e => .error (.excess e)

/-- The number in a range that a last digit makes in its decade. A digit of any script will do
where the whole decade lies in the range; elsewhere it must be an ASCII digit. -/
def readUnit (low high decade : Nat) (c : Char) : Option Nat :=
  let whole := low ≤ 10 * decade ∧ 10 * decade + 9 ≤ high
  if whole ∨ c.isDigit then
    ((Text.digitValue? c).map (10 * decade + ·)).filter fun n => low ≤ n && n ≤ high
  else none

/-- Reads a number in a range of at most two digits. The first of two is an ASCII digit. -/
def readPart (low high : Nat) : List Char → Option Nat
  | [c] => readUnit low high 0 c
  | [c, d] => if c.isDigit then (Text.digitValue? c).bind (readUnit low high · d) else none
  | _ => none

/-- A year of four digits of any script. -/
def readYear (cs : List Char) : Option Nat :=
  if cs.length = 4 then (cs.mapM Text.digitValue?).map (·.foldl (fun n d => 10 * n + d) 0) else none

/-- Divides a text at the first character of a kind, which is left out. -/
def cutAt (mark : Char → Bool) (cs : List Char) : Option (List Char × List Char) :=
  match cs.dropWhile (!mark ·) with
  | [] => none
  | _ :: rest => some (cs.takeWhile (!mark ·), rest)

/-- Divides a text after a day. A blank may stand before a day of one digit. -/
def cutDay : List Char → Option (List Char × List Char)
  | ' ' :: c :: rest => if rest.head?.any Text.isBlank then some ([c], rest) else none
  | cs => cutAt Text.isBlank cs

/-- Reads a timestamp, which must be a moment of the calendar. -/
def readMoment? (cs : List Char) : Option Moment := do
  let (year, rest) ← cutAt (· == '.') cs
  let (month, rest) ← cutAt (· == '.') rest
  let (day, rest) ← cutDay rest
  let (hour, rest) ← cutAt (· == ':') (rest.dropWhile Text.isBlank)
  let (minute, second) ← cutAt (· == ':') rest
  Moment.ofParts?
    { year := ← readYear year
      month := ← readPart 1 12 month
      day := ← readPart 1 31 day
      hour := ← readPart 0 23 hour
      minute := ← readPart 0 59 minute
      second := ← readPart 0 59 second
      microsecond := 0 }

/-- The moment that a value stands for. -/
def readTimestamp (text : String) : Except BadValue Moment :=
  match readMoment? text.toList with
  | some moment => .ok moment
  | none =>
    .error (.refused
      ("expected a timestamp like '2018.04.13 12:00:00', got " ++ Text.quoted text))

end CodecTables.CommandLine
