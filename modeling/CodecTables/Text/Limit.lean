/-!
# Limits

The largest sizes of texts. Integers have a decimal form up to a number of digits only, a text may
be so long, and a longer one cannot even be asked for. What goes beyond a limit is refused as a
whole.
-/

namespace CodecTables.Text

/-- The most digits of an integer in decimal. -/
def maxDigits : Nat := 4300

/-- The largest number of characters that can be asked for. -/
def maxCount : Nat := 9223372036854775807

/-- The most characters for which there is memory. -/
def maxLength : Nat := 4294967296

/-- A number that is too large for what it was to be used for. -/
inductive Excess where
  /-- The digits of an integer in decimal. -/
  | digits
  /-- The width of a formatted integer. -/
  | format
  /-- The width that a line is filled up to. -/
  | width
  /-- A number of copies, or a place. -/
  | count
  | memory
deriving DecidableEq, Repr

/-- How an excess is reported. -/
def Excess.message : Excess → String
  | digits =>
    "Exceeds the limit (4300 digits) for integer string conversion; " ++
      "use sys.set_int_max_str_digits() to increase the limit"
  | format => "Too many decimal digits in format string"
  | width => "Python int too large to convert to C ssize_t"
  | count => "cannot fit 'int' into an index-sized integer"
  | memory => ""

/-- The number is a count, or as far below zero as a count may be above. -/
def isCount (n : Int) : Bool := -(maxCount : Int) - 1 ≤ n && n ≤ maxCount

/-- The length of a text that is asked for by a number; there is none below zero. -/
def lengthOf (beyond : Excess) (n : Int) : Except Excess Nat :=
  if !isCount n then .error beyond
  else if (maxLength : Int) < n then .error .memory
  else .ok n.toNat

/-- A length is given for a count up to the largest length, and is that count or zero. -/
theorem lengthOf_eq_ok_iff {beyond : Excess} {n : Int} {length : Nat} :
    lengthOf beyond n = .ok length ↔
      isCount n = true ∧ n ≤ maxLength ∧ length = n.toNat := by
  unfold lengthOf
  cases isCount n with
  | false => simp
  | true =>
    by_cases large : (maxLength : Int) < n
    · simp [large, Int.not_le.mpr large]
    · simp [large, Int.not_lt.mp large, eq_comm]

end CodecTables.Text
