import CodecTables.Text.Numeral

/-!
# Binary floating-point numbers

Numbers of the two binary formats of 32 and 64 bits, as exact values. A number is written with the
fewest decimal digits that round to it.
-/

namespace CodecTables.Data

/-- A value of the 64-bit format. A finite one is `mantissa * 2 ^ exponent`, where the mantissa has
53 bits, or fewer with the least exponent -1074. -/
inductive Double where
  | nan
  | infinite (negative : Bool)
  | finite (negative : Bool) (mantissa : Nat) (exponent : Int)
deriving DecidableEq

namespace Double

/-- Shifts a mantissa up to 53 bits; zero has the least exponent. -/
def normalize (negative : Bool) (mantissa : Nat) (exponent : Int) : Double :=
  if mantissa = 0 then finite negative 0 (-1074)
  else
    let shift := min (52 - mantissa.log2) (exponent + 1074).toNat
    finite negative (mantissa * Nat.pow 2 shift) (exponent - shift)

/-- Reads a format with so many fraction bits and exponent bits from the bits of a number. -/
def ofFields (fractionBits exponentBits bits : Nat) : Double :=
  let fraction := bits % Nat.pow 2 fractionBits
  let biased := bits / Nat.pow 2 fractionBits % Nat.pow 2 exponentBits
  let negative := bits / Nat.pow 2 (fractionBits + exponentBits) % 2 == 1
  let least : Int := 2 - Nat.pow 2 (exponentBits - 1) - fractionBits
  if biased = Nat.pow 2 exponentBits - 1 then
    if fraction = 0 then infinite negative else nan
  else if biased = 0 then normalize negative fraction least
  else normalize negative (fraction + Nat.pow 2 fractionBits) (least + biased - 1)

/-- The number that the bits of a double stand for. -/
def ofBits64 (bits : Nat) : Double := ofFields 52 11 bits

/-- The number that the bits of a float stand for. -/
def ofBits32 (bits : Nat) : Double := ofFields 23 8 bits

/-- One and a half, from its bits. -/
def oneAndAHalf : Double := ofBits64 0x3ff8000000000000

/-- The quotient rounded to the nearest integer, a half to the even one. -/
def roundDiv (numerator denominator : Nat) : Nat :=
  let quotient := numerator / denominator
  let twice := 2 * (numerator % denominator)
  if twice > denominator ∨ (twice = denominator ∧ quotient % 2 = 1) then quotient + 1 else quotient

/-- `mantissa * 2 ^ exponent` as a fraction. -/
def fractionOf (mantissa : Nat) (exponent : Int) : Nat × Nat :=
  (mantissa * Nat.pow 2 exponent.toNat, Nat.pow 2 (-exponent).toNat)

/-- A number rounded to 53 significant bits. -/
def round53 (n : Nat) : Nat :=
  let step := Nat.pow 2 (n.log2 - 52)
  roundDiv n step * step

/-- A number of seconds in whole microseconds: the whole seconds exactly, and the fraction of a
second after a multiplication that rounds to 53 bits. -/
def microseconds? : Double → Option Int
  | finite negative mantissa exponent =>
    let (numerator, denominator) := fractionOf mantissa exponent
    let whole := numerator / denominator
    let fraction := round53 (numerator % denominator * 1000000)
    let total := whole * 1000000 + roundDiv fraction denominator
    some (if negative then -(total : Int) else total)
  | _ => none

/-- The exact comparison of a number with an integer. -/
def equalsInt (x : Double) (n : Int) : Bool :=
  match x with
  | finite negative mantissa exponent =>
    let (numerator, denominator) := fractionOf mantissa exponent
    numerator == n.natAbs * denominator && (n == 0 || negative == decide (n < 0))
  | _ => false

/-- Numeric equality: the two zeros are equal, and no value equals what is not a number. -/
def same : Double → Double → Bool
  | nan, _ => false
  | _, nan => false
  | finite _ 0 _, finite _ 0 _ => true
  | x, y => x == y

/-! ### Shortest decimal form -/

/-- The ends of the interval of reals that round to a finite number, and the number itself, as
numerators over one denominator. The lower gap is half as wide below a power of two. -/
structure Rounding where
  low : Nat
  value : Nat
  high : Nat
  denominator : Nat
  /-- The ends belong to the interval, since a tie goes to the even mantissa. -/
  closed : Bool

/-- The interval of a positive finite number. -/
def rounding (mantissa : Nat) (exponent : Int) : Rounding :=
  let (scale, denominator) := fractionOf 1 exponent
  let gap := if mantissa = Nat.pow 2 52 ∧ exponent ≠ -1074 then 1 else 2
  ⟨(4 * mantissa - gap) * scale, 4 * mantissa * scale, (4 * mantissa + 2) * scale,
    4 * denominator, mantissa % 2 == 0⟩

/-- The decimal `digits * 10 ^ power` lies in the interval. -/
def Rounding.holds (r : Rounding) (digits : Nat) (power : Int) : Bool :=
  let x := digits * Nat.pow 10 power.toNat * r.denominator
  let unit := Nat.pow 10 (-power).toNat
  if r.closed then r.low * unit ≤ x && x ≤ r.high * unit
  else r.low * unit < x && x < r.high * unit

/-- Of the two neighbours of the number on the grid of multiples of `10 ^ power`, the nearer one
that lies in its interval, a tie going to the even one. -/
def Rounding.neighbour? (r : Rounding) (power : Int) : Option Nat :=
  let top := r.value * Nat.pow 10 (-power).toNat
  let bottom := r.denominator * Nat.pow 10 power.toNat
  let nearest := roundDiv top bottom
  let below := top / bottom
  let other := if nearest = below then below + 1 else below
  [nearest, other].find? (r.holds · power)

/-- The number of digits before the decimal point: the least `k` with `value < 10 ^ k`, looked for
downwards from a bound. -/
def Rounding.scale (r : Rounding) : Nat → Int → Int
  | 0, k => k
  | n + 1, k =>
    if r.value * Nat.pow 10 (1 - k).toNat < r.denominator * Nat.pow 10 (k - 1).toNat then
      r.scale n (k - 1)
    else k

/-- The shortest digits: on the coarsest decimal grid that has a point in the interval, with the
power of ten of the last digit. -/
def Rounding.shortest (r : Rounding) (scale : Int) : List Nat → Nat × Int
  | [] => (0, 0)
  | n :: counts =>
    let power := scale - n
    match r.neighbour? power with
    | some digits => (digits, power)
    | none => r.shortest scale counts

/-- Digits without the zeros at their end, and the power of ten that takes their place. -/
def stripZeros : Nat → Nat → Int → Nat × Int
  | 0, digits, power => (digits, power)
  | fuel + 1, digits, power =>
    if digits % 10 = 0 ∧ digits ≠ 0 then stripZeros fuel (digits / 10) (power + 1)
    else (digits, power)

/-- The exponent of ten of scientific notation: a sign and at least two digits. -/
def exponentText (e : Int) : String :=
  (if e < 0 then "e-" else "e+") ++ String.ofList (Text.padded Text.decimalDigits 2 e.natAbs)

/-- Writes digits whose last one has the given power of ten: positional from a ten-thousandth up to
below `10 ^ 16`, with at least one digit on either side of the point, and scientific beyond. -/
def layout (digits : Nat) (power : Int) : String :=
  let ds := Text.decimalDigits digits
  let point : Int := ds.length + power
  if -4 < point ∧ point ≤ 16 then
    if point ≤ 0 then "0." ++ String.ofList (List.replicate (-point).toNat '0' ++ ds)
    else
      let whole := ds.take point.toNat ++ List.replicate (point.toNat - ds.length) '0'
      let part := ds.drop point.toNat
      String.ofList whole ++ "." ++ String.ofList (if part.isEmpty then ['0'] else part)
  else
    let tail := ds.drop 1
    String.ofList (ds.take 1 ++ (if tail.isEmpty then [] else '.' :: tail)) ++
      exponentText (point - 1)

/-- A number in the shortest form that reads back as it. -/
def text : Double → String
  | nan => "nan"
  | infinite negative => if negative then "-inf" else "inf"
  | finite negative mantissa exponent =>
    let sign := if negative then "-" else ""
    if mantissa = 0 then sign ++ "0.0"
    else
      let r := rounding mantissa exponent
      let scale := r.scale 700 310
      let (digits, power) := r.shortest scale ((List.range 17).map (· + 1))
      let (stripped, shifted) := stripZeros 20 digits power
      sign ++ layout stripped shifted

end Double

end CodecTables.Data
