import CodecTables.Text.RangeTable

/-!
# Blank characters

Blanks are the white space of every script, with the four ASCII separators. A text is trimmed of
blanks at both ends.
-/

namespace CodecTables.Text

/-- The characters that count as blank, which are more than the spaces of ASCII. -/
def blanks : RangeTable := ⟨[
  (9, 13), (28, 32), (133, 133), (160, 160), (5760, 5760), (8192, 8202), (8232, 8233),
  (8239, 8239), (8287, 8287), (12288, 12288)]⟩

/-- A blank character. -/
def isBlank (c : Char) : Bool := blanks.contains c

/-- The text without the blanks at its ends. -/
def trim (cs : List Char) : List Char :=
  ((cs.dropWhile isBlank).reverse.dropWhile isBlank).reverse

end CodecTables.Text
