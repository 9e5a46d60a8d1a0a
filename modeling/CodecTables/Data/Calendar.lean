import CodecTables.Text.Numeral

/-!
# Calendar

Moments of the proleptic Gregorian calendar between the years 1 and 9999, without a time zone.
-/

namespace CodecTables.Data

/-- A date and a time of day to the microsecond. -/
structure Moment where
  year : Nat
  month : Nat
  day : Nat
  hour : Nat
  minute : Nat
  second : Nat
  microsecond : Nat
deriving DecidableEq

namespace Moment

/-- Every fourth year is a leap year, except for centuries that 400 does not divide. -/
def isLeap (year : Nat) : Bool := year % 4 == 0 && (year % 100 != 0 || year % 400 == 0)

/-- The number of days that a month of a year has. -/
def daysInMonth (year month : Nat) : Nat :=
  if month = 2 then (if isLeap year then 29 else 28)
  else if month = 4 ∨ month = 6 ∨ month = 9 ∨ month = 11 then 30 else 31

/-- The parts of a moment as they are given, each in its range or not. -/
structure Parts where
  year : Int
  month : Int
  day : Int
  hour : Int := 0
  minute : Int := 0
  second : Int := 0
  microsecond : Int := 0

/-- What is wrong with the parts of a moment: a part that is no word of 64 or of 32 bits, or else
one that is out of its range. -/
inductive Flaw where
  /-- A part is too large for 64 bits, on either side of zero. -/
  | huge
  /-- A part is above all words of 32 bits. -/
  | above
  /-- A part is below all words of 32 bits. -/
  | below
  | year (year : Int)
  | month
  | day
  | hour
  | minute
  | second
  | microsecond
deriving DecidableEq

namespace Flaw

/-- A number that does not fit the machine is an excess, and one that names no moment is not. -/
def isExcess : Flaw → Bool
  | huge | above | below => true
  | _ => false

/-- How a flaw is reported. -/
def message : Flaw → String
  | huge => "Python int too large to convert to C long"
  | above => "signed integer is greater than maximum"
  | below => "signed integer is less than minimum"
  | year n => "year " ++ Text.decimal n ++ " is out of range"
  | month => "month must be in 1..12"
  | day => "day is out of range for month"
  | hour => "hour must be in 0..23"
  | minute => "minute must be in 0..59"
  | second => "second must be in 0..59"
  | microsecond => "microsecond must be in 0..999999"

end Flaw

namespace Parts

/-- The parts from the year down to the microsecond. -/
def toList (p : Parts) : List Int :=
  [p.year, p.month, p.day, p.hour, p.minute, p.second, p.microsecond]

/-- The excess of a part that is no word of 32 bits. -/
def excess? (part : Int) : Option Flaw :=
  if !Text.isCount part then some .huge
  else if part < -2147483648 then some .below
  else if 2147483647 < part then some .above
  else none

/-- The first part that is out of its range. -/
def outside? (p : Parts) : Option Flaw :=
  if p.year < 1 ∨ 9999 < p.year then some (.year p.year)
  else if p.month < 1 ∨ 12 < p.month then some .month
  else if p.day < 1 ∨ daysInMonth p.year.toNat p.month.toNat < p.day then some .day
  else if p.hour < 0 ∨ 23 < p.hour then some .hour
  else if p.minute < 0 ∨ 59 < p.minute then some .minute
  else if p.second < 0 ∨ 59 < p.second then some .second
  else if p.microsecond < 0 ∨ 999999 < p.microsecond then some .microsecond
  else none

/-- What is wrong with the parts; an excess of any part comes first. -/
def flaw? (p : Parts) : Option Flaw := (p.toList.findSome? excess?).or p.outside?

end Parts

/-- The moment with the given parts, or what is wrong with them. -/
def ofParts (p : Parts) : Except Flaw Moment :=
  match p.flaw? with
  | none => .ok
    { year := p.year.toNat
      month := p.month.toNat
      day := p.day.toNat
      hour := p.hour.toNat
      minute := p.minute.toNat
      second := p.second.toNat
      microsecond := p.microsecond.toNat }
  | some flaw => .error flaw

/-- The moment with the given parts, if there is such a moment. -/
def ofParts? (p : Parts) : Option Moment := (ofParts p).toOption

/-- The number of days before the first of January of a year. -/
def daysBeforeYear (year : Nat) : Nat :=
  let past := year - 1
  365 * past + past / 4 - past / 100 + past / 400

/-- The month and the day of a place in a year, looked for from month `13 - n` on. -/
def monthAndDay (year : Nat) : Nat → Nat → Nat × Nat
  | 0, place => (12, place + 1)
  | n + 1, place =>
    let month := 12 - n
    let days := daysInMonth year month
    if place < days then (month, place + 1) else monthAndDay year n (place - days)

/-- The year that holds a day, counted from the first of January of the year 1. The mean length of
a year gives an estimate that is at most one off. -/
def yearOfDay (day : Nat) : Nat :=
  let estimate := day * 400 / 146097 + 1
  if daysBeforeYear (estimate + 1) ≤ day then estimate + 1
  else if daysBeforeYear estimate ≤ day then estimate
  else estimate - 1

/-- The length of a day in microseconds. -/
def dayLength : Int := 86400000000

/-- Midnight of the first of January 2001, in microseconds from the start of the year 1. -/
def epoch : Int := daysBeforeYear 2001 * dayLength

/-- The moment so many microseconds after the epoch, if it lies in the calendar. -/
def ofMicroseconds? (offset : Int) : Option Moment :=
  let total := epoch + offset
  if 0 ≤ total ∧ total < daysBeforeYear 10000 * dayLength then
    let day := (total / dayLength).toNat
    let time := (total % dayLength).toNat
    let year := yearOfDay day
    let (month, dayOfMonth) := monthAndDay year 12 (day - daysBeforeYear year)
    some ⟨year, month, dayOfMonth, time / 3600000000, time / 60000000 % 60, time / 1000000 % 60,
      time % 1000000⟩
  else none

/-- A number in at least so many digits. -/
def digits (width n : Nat) : String := String.ofList (Text.padded Text.decimalDigits width n)

/-- Year, month, day and time of day, divided by points, a blank and colons. -/
def stamp (m : Moment) : String :=
  digits 1 m.year ++ "." ++ digits 2 m.month ++ "." ++ digits 2 m.day ++ " " ++
    digits 2 m.hour ++ ":" ++ digits 2 m.minute ++ ":" ++ digits 2 m.second

/-- The date and the time of day with the given divider, and the fraction of the second if there is
one. -/
def iso (divider : String) (m : Moment) : String :=
  digits 4 m.year ++ "-" ++ digits 2 m.month ++ "-" ++ digits 2 m.day ++ divider ++
    digits 2 m.hour ++ ":" ++ digits 2 m.minute ++ ":" ++ digits 2 m.second ++
    if m.microsecond = 0 then "" else "." ++ digits 6 m.microsecond

/-- The parts of a moment as a list that leaves out a last zero second and microsecond. -/
def parts (m : Moment) : List Nat :=
  [m.year, m.month, m.day, m.hour, m.minute] ++
    if m.microsecond ≠ 0 then [m.second, m.microsecond]
    else if m.second ≠ 0 then [m.second] else []

end Moment

end CodecTables.Data
