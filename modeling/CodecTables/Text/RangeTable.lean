/-!
# Sets of characters as ranges of code points
-/

namespace CodecTables.Text

/-- A set of characters, given by the first and the last code point of each of its ranges. -/
structure RangeTable where
  ranges : List (Nat × Nat)

namespace RangeTable

/-- A character is in a table when one of its ranges holds its code point. -/
def contains (table : RangeTable) (c : Char) : Bool :=
  table.ranges.any fun range => range.1 ≤ c.toNat && c.toNat ≤ range.2

theorem contains_iff {table : RangeTable} {c : Char} :
    table.contains c = true ↔ ∃ range ∈ table.ranges, range.1 ≤ c.toNat ∧ c.toNat ≤ range.2 := by
  simp [contains]

end RangeTable

end CodecTables.Text
