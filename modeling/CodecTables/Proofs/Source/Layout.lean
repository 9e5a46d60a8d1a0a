import CodecTables.Proofs.Source.Printing

/-!
# Layout

What a node's strokes leave on an empty sheet are lines, each with its depth. The lines do not know
of a unit or of the level of a writer: at the start of a line, every writer adds the same lines, as
deep as its level says (`Shows.draw`).
-/

namespace CodecTables.Source

open Print

/-- What is on a line, and how deep the line is. -/
structure Line where
  depth : Nat
  text : List Char

namespace Line

/-- A line with its margin, unless nothing is on it. -/
def chars (unit : String) (line : Line) : List Char :=
  if line.text.isEmpty then []
  else (String.join (List.replicate line.depth unit)).toList ++ line.text

/-- A line with its depth raised. -/
def deeper (more : Nat) (line : Line) : Line := ⟨more + line.depth, line.text⟩

theorem chars_nil (unit : String) (depth : Nat) : chars unit ⟨depth, []⟩ = [] := rfl

theorem deeper_zero : deeper 0 = id := by
  funext line
  rw [deeper, Nat.zero_add]
  rfl

/-- Without a unit of indentation a line is its text. -/
theorem chars_bare : chars "" = text := by
  funext line
  have margin : String.join (List.replicate line.depth "") = "" :=
    Writer.margin_of_bare (w := ⟨"", line.depth, true, ""⟩) rfl
  rw [chars, margin]
  cases line.text <;> rfl

/-- What is on a line with its margin is of the unit or of the line. -/
theorem mem_of_mem_chars {unit : String} {line : Line} {c : Char} (member : c ∈ line.chars unit) :
    c ∈ unit.toList ∨ c ∈ line.text := by
  unfold chars at member
  split at member
  · exact absurd member List.not_mem_nil
  · refine (List.mem_append.mp member).imp_left fun inside => ?_
    exact Writer.mem_of_mem_margin (w := ⟨unit, line.depth, true, ""⟩) inside

end Line

/-- Lines that are spelled with a unit of indentation. -/
def layout (unit : String) (lines : List Line) : List Char :=
  ['\n'].intercalate (lines.map (Line.chars unit))

theorem layout_concat (unit : String) (done : List Line) (last : Line) :
    layout unit (done ++ [last]) =
      done.flatMap (fun line => line.chars unit ++ ['\n']) ++ last.chars unit := by
  unfold layout
  induction done with
  | nil => simp
  | cons line done ih =>
    have later : (done ++ [last]).map (Line.chars unit) ≠ [] := by simp
    rw [List.cons_append, List.map_cons, List.intercalate_cons_of_ne_nil later, ih]
    simp

/-! ### Sheets -/

/-- Lines on which strokes have been put. The first character of a line stands at the level of the
sheet. -/
structure Sheet where
  level : Nat
  done : List Line
  last : Line

namespace Sheet

/-- The sheet with one empty line at level zero. -/
def blank : Sheet := ⟨0, [], ⟨0, []⟩⟩

/-- The lines of a sheet, the last one included. -/
def lines (sheet : Sheet) : List Line := sheet.done ++ [sheet.last]

/-- Puts a character on the last line, or ends this line. -/
def put (sheet : Sheet) (c : Char) : Sheet :=
  if c = '\n' then ⟨sheet.level, sheet.lines, ⟨sheet.level, []⟩⟩
  else
    let depth := if sheet.last.text.isEmpty then sheet.level else sheet.last.depth
    ⟨sheet.level, sheet.done, ⟨depth, sheet.last.text ++ [c]⟩⟩

/-- The sheet after a stroke. -/
def stroke (sheet : Sheet) : Stroke → Sheet
  | .put c => sheet.put c
  | .indent => { sheet with level := sheet.level + 1 }
  | .outdent => { sheet with level := sheet.level - 1 }

/-- The sheet after a row of strokes. -/
def draw (sheet : Sheet) (strokes : List Stroke) : Sheet := strokes.foldl stroke sheet

theorem draw_append (sheet : Sheet) (strokes strokes' : List Stroke) :
    sheet.draw (strokes ++ strokes') = (sheet.draw strokes).draw strokes' :=
  List.foldl_append

/-- The strokes of a block are drawn one level deeper. -/
theorem draw_block (sheet : Sheet) (inner : List Stroke) :
    sheet.draw (.put '\n' :: .indent :: (inner ++ [.outdent])) =
      (((sheet.put '\n').stroke .indent).draw inner).stroke .outdent :=
  draw_append ((sheet.put '\n').stroke .indent) inner [.outdent]

theorem level_put (sheet : Sheet) (c : Char) : (sheet.put c).level = sheet.level := by
  unfold put
  split <;> rfl

/-- There is no line break on a line. -/
def Ruled (sheet : Sheet) : Prop := ∀ line ∈ sheet.lines, '\n' ∉ line.text

/-- A stroke keeps the lines of a sheet free of line breaks. -/
theorem Ruled.stroke {sheet : Sheet} (ruled : sheet.Ruled) (stroke : Stroke) :
    (sheet.stroke stroke).Ruled := by
  cases stroke with
  | put c =>
    change (sheet.put c).Ruled
    unfold put
    split
    case isTrue =>
      intro line member
      obtain before | rfl := List.mem_append.mp member |>.imp_right List.mem_singleton.mp
      · exact ruled line before
      · exact List.not_mem_nil
    case isFalse other =>
      intro line member
      obtain before | rfl := List.mem_append.mp member |>.imp_right List.mem_singleton.mp
      · exact ruled line (List.mem_append_left _ before)
      · have last := ruled sheet.last (List.mem_append_right _ List.mem_cons_self)
        simpa [last] using Ne.symm other
  | indent | outdent => exact ruled

/-- Strokes keep the lines of a sheet free of line breaks. -/
theorem Ruled.draw {sheet : Sheet} (ruled : sheet.Ruled) (strokes : List Stroke) :
    (sheet.draw strokes).Ruled := by
  induction strokes generalizing sheet with
  | nil => exact ruled
  | cons first rest ih => exact ih (ruled.stroke first)

theorem ruled_blank : blank.Ruled := by
  intro line member
  rw [List.mem_singleton.mp member]
  exact List.not_mem_nil

end Sheet

/-! ### Sheets and writers -/

/-- The writer has added the lines of the sheet to what was in front, all of them deeper. -/
structure Shows (front : List Char) (base : Nat) (sheet : Sheet) (w : Writer) : Prop where
  level : w.level = base + sheet.level
  fresh : w.atLineStart = sheet.last.text.isEmpty
  chars : w.chars = front ++ layout w.unit (sheet.lines.map (Line.deeper base))

namespace Shows

variable {front : List Char} {base : Nat} {sheet : Sheet} {w : Writer}

/-- A writer at the start of a line shows a blank sheet. -/
theorem blank {w : Writer} (fresh : w.atLineStart = true) : Shows w.chars w.level .blank w where
  level := rfl
  fresh := fresh
  chars := (List.append_nil _).symm

theorem put_newline (shows : Shows front base sheet w) :
    Shows front base (sheet.put '\n') (w.put '\n') := by
  have broken : sheet.put '\n' = ⟨sheet.level, sheet.lines, ⟨sheet.level, []⟩⟩ := if_pos rfl
  refine ⟨?_, ?_, ?_⟩
  · rw [Writer.level_put, broken]
    exact shows.level
  · rw [Writer.atLineStart_put, broken]
    rfl
  · rw [Writer.chars_put_newline, Writer.unit_put, shows.chars, broken]
    simp only [Sheet.lines, List.map_append, List.map_cons, List.map_nil, layout_concat,
      List.flatMap_append, List.flatMap_cons, List.flatMap_nil]
    simp [Line.deeper, Line.chars_nil]

/-- Another character than a line break is shown on the sheet. -/
theorem put_other (shows : Shows front base sheet w) {c : Char} (other : c ≠ '\n') :
    Shows front base (sheet.put c) (w.put c) := by
  have inked : sheet.put c = ⟨sheet.level, sheet.done,
      ⟨if sheet.last.text.isEmpty then sheet.level else sheet.last.depth,
        sheet.last.text ++ [c]⟩⟩ := if_neg other
  refine ⟨?_, ?_, ?_⟩
  · rw [Writer.level_put, inked]
    exact shows.level
  · rw [Writer.atLineStart_put, decide_eq_false other, inked]
    simp
  · rw [Writer.chars_put w other, Writer.unit_put, shows.chars, inked, Writer.lead, shows.fresh]
    unfold Writer.margin
    rw [shows.level]
    cases empty : sheet.last.text <;>
      simp [Sheet.lines, layout_concat, Line.chars, Line.deeper, empty]

/-- A character that is written is shown on the sheet. -/
theorem put (shows : Shows front base sheet w) (c : Char) :
    Shows front base (sheet.put c) (w.put c) := by
  by_cases newline : c = '\n'
  · exact newline ▸ shows.put_newline
  · exact shows.put_other newline

/-- A level that is opened is shown on the sheet. -/
theorem indent (shows : Shows front base sheet w) :
    Shows front base (sheet.stroke .indent) w.indent where
  level := congrArg (· + 1) shows.level
  fresh := shows.fresh
  chars := shows.chars

/-- At the level where a block was begun, a writer is as deep as its sheet again. -/
theorem outdent (shows : Shows front base sheet w) {level : Nat}
    (opened : sheet.level = level + 1) :
    Shows front base (sheet.stroke .outdent) w.outdent where
  level := by
    change w.level - 1 = base + (sheet.level - 1)
    rw [shows.level, opened]
    rfl
  fresh := shows.fresh
  chars := shows.chars

/-- Balanced strokes leave the level of a sheet as it was, so no level is left that the sheet has
not opened. -/
theorem draw {strokes : List Stroke} (balanced : Balanced strokes)
    (shows : Shows front base sheet w) :
    (sheet.draw strokes).level = sheet.level ∧
      Shows front base (sheet.draw strokes) (w.draw strokes) := by
  induction balanced generalizing sheet w with
  | nil => exact ⟨rfl, shows⟩
  | put c => exact ⟨sheet.level_put c, shows.put c⟩
  | append _ _ first second =>
    obtain ⟨level, shows⟩ := first shows
    obtain ⟨level', shows⟩ := second shows
    rw [Sheet.draw_append, Writer.draw_append]
    exact ⟨level'.trans level, shows⟩
  | block _ ih =>
    obtain ⟨level, shows⟩ := ih (shows.put '\n').indent
    have opened : ((sheet.put '\n').stroke .indent).level = sheet.level + 1 :=
      congrArg (· + 1) (sheet.level_put '\n')
    rw [Sheet.draw_block, Writer.draw_block]
    exact ⟨congrArg (· - 1) (level.trans opened), shows.outdent (level.trans opened)⟩

end Shows

/-- At the start of a line, every writer adds the lines, as deep as its level says, and printing
ends in the same way. -/
def Node.LaysOut (node : Node) (lines : List Line) (result : Except Unprintable Unit) : Prop :=
  ∀ w : Writer, w.atLineStart = true → ∃ v, outcome node.print w = (result, v) ∧
    v.level = w.level ∧ v.chars = w.chars ++ layout w.unit (lines.map (Line.deeper w.level))

theorem Node.exists_laysOut (node : Node) : ∃ lines result,
    node.LaysOut lines result ∧ lines ≠ [] ∧ ∀ line ∈ lines, '\n' ∉ line.text := by
  obtain ⟨strokes, result, balanced, draws⟩ := node.steady_print
  refine ⟨(Sheet.blank.draw strokes).lines, result,
    fun w fresh => ⟨w.draw strokes, draws w, balanced.level_draw w, ?_⟩,
    List.concat_ne_nil _ _, Sheet.ruled_blank.draw strokes⟩
  have shows := (Shows.draw balanced (.blank fresh)).2
  rw [shows.chars, (w.grows_draw strokes).unit]

namespace Node.LaysOut

variable {node : Node} {lines : List Line} {result : Except Unprintable Unit}

/-- A new writer adds the lines as they are. -/
theorem start (lays : node.LaysOut lines result) (unit : String) :
    ∃ v, outcome node.print (.start unit) = (result, v) ∧ v.chars = layout unit lines := by
  obtain ⟨v, run, _, chars⟩ := lays (.start unit) rfl
  refine ⟨v, run, chars.trans ?_⟩
  change layout unit (lines.map (Line.deeper 0)) = layout unit lines
  rw [Line.deeper_zero, List.map_id]

/-- What a node renders to is the layout of its lines. -/
theorem render (lays : node.LaysOut lines result) (unit : String) :
    node.render unit = result.map fun _ => String.ofList (layout unit lines) := by
  obtain ⟨v, run, chars⟩ := lays.start unit
  have text : v.text = String.ofList (layout unit lines) := by
    rw [← String.toList_inj, String.toList_ofList]
    exact chars
  rw [Node.render_eq, run]
  exact congrArg (fun text => result.map fun _ => text) text

end Node.LaysOut

/-- A node that has a text has the same lines with every unit and at every level. -/
theorem layout_of_render {node : Node} {unit text : String}
    (rendered : node.render unit = .ok text) :
    ∃ lines : List Line, (∀ line ∈ lines, '\n' ∉ line.text) ∧
      (∀ unit' : String, node.render unit' = .ok (String.ofList (layout unit' lines))) ∧
      ∀ w : Writer, w.atLineStart = true → ∃ v, Prints node.print w v ∧ v.level = w.level ∧
        v.chars = w.chars ++ layout w.unit (lines.map (Line.deeper w.level)) := by
  obtain ⟨lines, result, lays, _, ruled⟩ := node.exists_laysOut
  cases result with
  | error e => cases rendered.symm.trans (lays.render unit)
  | ok _ => exact ⟨lines, ruled, lays.render, lays⟩

/-- A row in a literal, as it is printed with two blanks for a level. -/
def oneRow : Node := .literal [.literal [.identifier "CODEC", .boolean true]]

/-- The text of a literal with one row in it. -/
def oneRowText : String := "\x7b\n  \x7b\n    CODEC,\n    true\n  \x7d\n\x7d"

/-- A literal with one row renders to its lines, whatever the unit of indentation. -/
theorem layout_of_render_oneRow : oneRow.render "  " = .ok oneRowText ∧
    ∃ lines : List Line, (∀ line ∈ lines, '\n' ∉ line.text) ∧
      (∀ unit : String, oneRow.render unit = .ok (String.ofList (layout unit lines))) ∧
      ∀ w : Writer, w.atLineStart = true → ∃ v, Prints oneRow.print w v ∧ v.level = w.level ∧
        v.chars = w.chars ++ layout w.unit (lines.map (Line.deeper w.level)) := by
  have rendered : oneRow.render "  " = .ok oneRowText := rfl
  exact ⟨rendered, layout_of_render rendered⟩

end CodecTables.Source
