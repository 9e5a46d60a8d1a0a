/-!
# Indented text

A writer holds a text and a level of indentation. The margin of a line is written only with the
first character of the line, so an empty line has none. A text may be
written in pieces (`Writer.write_append`).
-/

namespace CodecTables.Source

/-- A text in the making, with the depth of its next line. -/
structure Writer where
  /-- What one level of indentation adds to a line. -/
  unit : String
  level : Nat
  atLineStart : Bool
  text : String

namespace Writer

/-- The default indentation, a tab. -/
def defaultUnit : String := "\t"

/-- The writer before anything is written. -/
def start (unit : String) : Writer := ⟨unit, 0, true, ""⟩

/-- The indentation of a line at the current level. -/
def margin (w : Writer) : String := String.join (List.replicate w.level w.unit)

/-- Writes one character, with the margin before it if it is the first of its line. -/
def put (w : Writer) (c : Char) : Writer :=
  if c = '\n' then { w with text := w.text.push '\n', atLineStart := true }
  else if w.atLineStart then
    { w with text := (w.text ++ w.margin).push c, atLineStart := false }
  else { w with text := w.text.push c }

/-- Writes a text, character by character. -/
def write (w : Writer) (s : String) : Writer := s.toList.foldl put w

/-- Only the whole of what is written matters, not how it is cut. -/
theorem write_append (w : Writer) (s t : String) : w.write (s ++ t) = (w.write s).write t := by
  simp [write, List.foldl_append]

theorem level_put (w : Writer) (c : Char) : (w.put c).level = w.level := by
  unfold put
  split
  · rfl
  · split <;> rfl

theorem level_write (w : Writer) (s : String) : (w.write s).level = w.level := by
  unfold write
  generalize s.toList = cs
  induction cs generalizing w with
  | nil => rfl
  | cons c rest ih => rw [List.foldl_cons, ih, level_put]

/-- Writes a text and ends the line. -/
def writeLine (w : Writer) (s : String) : Writer := w.write (s ++ "\n")

/-- One level more. -/
def indent (w : Writer) : Writer := { w with level := w.level + 1 }

/-- One level less, if there is one. -/
def outdent (w : Writer) : Writer := { w with level := w.level - 1 }

end Writer

end CodecTables.Source
