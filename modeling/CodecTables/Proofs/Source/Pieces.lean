import CodecTables.Proofs.Source.Stroke

/-!
# Text in pieces

A writer may be used in any order: texts and lines, levels, and blocks inside of blocks. How the
texts between two changes of the level are cut does not matter, and each text is added line by line,
with the margin before a line that is not empty and begins at the start of a line.
-/

namespace CodecTables.Source

open Print

/-- What is done to a writer; a block of indentation holds more of it. -/
inductive Act where
  | write (s : String)
  | writeLine (s : String)
  | indent
  | outdent
  | indented (acts : List Act)

mutual

/-- An act as a step of printing. -/
def Act.step : Act → Print Unit
  | .write s => Print.write s
  | .writeLine s => Print.writeLine s
  | .indent => modify Writer.indent
  | .outdent => modify Writer.outdent
  | .indented acts => Print.indented (steps acts)

/-- Acts as one step of printing. -/
def steps : List Act → Print Unit
  | [] => pure ()
  | act :: rest => do
    act.step
    steps rest

end

mutual

/-- The strokes of an act. -/
def Act.strokes : Act → List Stroke
  | .write s => puts s
  | .writeLine s => puts (s ++ "\n")
  | .indent => [.indent]
  | .outdent => [.outdent]
  | .indented acts => .indent :: (strokesAll acts ++ [.outdent])

/-- The strokes of acts, one after the other. -/
def strokesAll : List Act → List Stroke
  | [] => []
  | act :: rest => act.strokes ++ strokesAll rest

end

mutual

/-- All that is written, without any margin. -/
def Act.written : Act → String
  | .write s => s
  | .writeLine s => s ++ "\n"
  | .indent | .outdent => ""
  | .indented acts => writtenAll acts

/-- The text of acts, without margins. -/
def writtenAll : List Act → String
  | [] => ""
  | act :: rest => act.written ++ writtenAll rest

end

/-- The writer that is left by acts. -/
def Writer.after (w : Writer) (acts : List Act) : Writer := (outcome (steps acts) w).2

mutual

/-- An act draws its strokes. -/
theorem Act.draws_step : ∀ act : Act, Draws act.step act.strokes (.ok ())
  | .write s => draws_write s
  | .writeLine s => draws_write (s ++ "\n")
  | .indent => fun _ => rfl
  | .outdent => fun _ => rfl
  | .indented acts => (draws_steps acts).indented

theorem draws_steps : ∀ acts : List Act, Draws (steps acts) (strokesAll acts) (.ok ())
  | [] => fun _ => rfl
  | act :: rest => act.draws_step.bind (draws_steps rest)

end

mutual

/-- The strokes of an act put its text. -/
theorem Act.inked_strokes : ∀ act : Act, inked act.strokes = act.written.toList
  | .write s => inked_puts s
  | .writeLine s => inked_puts (s ++ "\n")
  | .indent => rfl
  | .outdent => rfl
  | .indented acts => by
    rw [Act.strokes, Act.written, ← inked_strokesAll acts]
    exact (inked_append _ _).trans (List.append_nil _)

/-- The strokes of acts put their text. -/
theorem inked_strokesAll : ∀ acts : List Act, inked (strokesAll acts) = (writtenAll acts).toList
  | [] => rfl
  | act :: rest => by
    rw [strokesAll, writtenAll, inked_append, act.inked_strokes, inked_strokesAll rest,
      String.toList_append]

end

namespace Writer

theorem after_eq_draw (w : Writer) (acts : List Act) : w.after acts = w.draw (strokesAll acts) :=
  congrArg Prod.snd (draws_steps acts w)

/-- At the start of a line, nothing was written or a line break was written last. -/
def Fresh (w : Writer) : Prop := w.atLineStart = true ↔ ∀ c ∈ w.chars.getLast?, c = '\n'

theorem fresh_put (w : Writer) (c : Char) : (w.put c).Fresh := by
  unfold Fresh
  rw [atLineStart_put]
  by_cases newline : c = '\n'
  · rw [newline, chars_put_newline]
    simp
  · rw [chars_put w newline, ← List.append_assoc, List.getLast?_concat]
    simp

/-- Strokes keep a writer fresh. -/
theorem fresh_draw {w : Writer} (fresh : w.Fresh) (strokes : List Stroke) :
    (w.draw strokes).Fresh := by
  induction strokes generalizing w with
  | nil => exact fresh
  | cons first rest ih =>
    refine ih ?_
    cases first with
    | put c => exact w.fresh_put c
    | indent | outdent => exact fresh

end Writer

/-- How a text is cut does not matter, and it is added line by line with the margins of the lines
that are not empty and begin at the start of a line, where a line starts at the head of all text
and behind a line break. With an empty unit the text is all that was written. -/
theorem written_line_by_line (w : Writer) :
    (∀ a b : String, (w.write a).write b = w.write (a ++ b)) ∧
    (∀ acts acts' : List Act, strokesAll acts = strokesAll acts' → w.after acts = w.after acts') ∧
    (∀ t : String, (w.write t).level = w.level ∧
      ∃ first rest, t.toList.splitOn '\n' = first :: rest ∧
        (w.write t).chars = w.chars ++ ['\n'].intercalate
          ((if w.atLineStart then w.marginLine first else first) :: rest.map w.marginLine)) ∧
    (∀ (unit : String) (acts : List Act), ((Writer.start unit).after acts).Fresh) ∧
    ∀ acts : List Act, ((Writer.start "").after acts).text = writtenAll acts := by
  refine ⟨fun a b => (w.write_append a b).symm, fun acts acts' same => ?_, fun t => ?_,
    fun unit acts => ?_, fun acts => ?_⟩
  case refine_1 => rw [Writer.after_eq_draw, Writer.after_eq_draw, same]
  case refine_2 =>
    refine ⟨w.level_write t, ?_⟩
    cases cut : t.toList.splitOn '\n' with
    | nil => exact absurd cut (List.splitOn_ne_nil _ _)
    | cons first rest =>
      have single : ∀ line ∈ first :: rest, '\n' ∉ line := fun line member inside =>
        (mem_of_mem_splitOn (cut ▸ member) inside).2 rfl
      have written := w.chars_write_cons single
      rw [← cut, List.intercalate_splitOn, String.ofList_toList] at written
      exact ⟨first, rest, rfl, written⟩
  case refine_3 =>
    rw [Writer.after_eq_draw]
    exact Writer.fresh_draw (by simp [Writer.Fresh, Writer.start, Writer.chars]) _
  case refine_4 =>
    rw [Writer.after_eq_draw, ← String.toList_inj, ← inked_strokesAll]
    exact Writer.chars_draw_of_bare rfl _

end CodecTables.Source
