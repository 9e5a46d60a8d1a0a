import CodecTables.Source.Writer

/-!
# What a writer writes

A character is added to what was written, with the margin before it if it begins a line
(`chars_put`). So a single line stands after the margin (`chars_write`), and of several lines each
one that is not empty (`chars_write_cons`). Nothing is ever taken back (`Grows`).
-/

namespace CodecTables.Source

/-- What is on a line of a text is of the text, and no line break. -/
theorem mem_of_mem_splitOn {cs line : List Char} {c : Char} (member : line ∈ cs.splitOn '\n')
    (inside : c ∈ line) : c ∈ cs ∧ c ≠ '\n' := by
  induction cs generalizing line with
  | nil => simp_all
  | cons d cs ih =>
    rw [List.splitOn_cons_eq_if_modifyHead] at member
    obtain ⟨first, rest, cut⟩ := List.exists_cons_of_ne_nil (List.splitOn_ne_nil '\n' cs)
    rw [cut] at ih member
    have later (line : List Char) (member : line ∈ first :: rest) (inside : c ∈ line) :
        c ∈ d :: cs ∧ c ≠ '\n' := (ih member inside).imp_left (List.mem_cons_of_mem d)
    split at member
    case isTrue =>
      obtain rfl | member := List.mem_cons.mp member
      · exact absurd inside List.not_mem_nil
      · exact later line member inside
    case isFalse other =>
      obtain rfl | member := List.mem_cons.mp member
      · obtain rfl | inside := List.mem_cons.mp inside
        · exact ⟨List.mem_cons_self, by simpa using other⟩
        · exact later first List.mem_cons_self inside
      · exact later line (List.mem_cons_of_mem first member) inside

namespace Writer

/-- All characters that were written. -/
def chars (w : Writer) : List Char := w.text.toList

/-- What is written before the next character, unless it is a line break. -/
def lead (w : Writer) : List Char := if w.atLineStart then w.margin.toList else []

/-- A line break is written without a margin. -/
theorem chars_put_newline (w : Writer) : (w.put '\n').chars = w.chars ++ ['\n'] := by
  simp [put, chars]

/-- Another character is written behind the margin, if it is the first of its line. -/
theorem chars_put {c : Char} (w : Writer) (other : c ≠ '\n') :
    (w.put c).chars = w.chars ++ (w.lead ++ [c]) := by
  unfold put lead chars
  rw [if_neg other]
  cases w.atLineStart <;> simp

theorem atLineStart_put (w : Writer) (c : Char) : (w.put c).atLineStart = decide (c = '\n') := by
  unfold put
  split
  case isTrue newline => simp [newline]
  case isFalse other => cases w.atLineStart <;> simp [other]

/-- Behind a character of a line there is no more margin. -/
theorem lead_put {c : Char} (w : Writer) (other : c ≠ '\n') : (w.put c).lead = [] := by
  rw [lead, atLineStart_put, decide_eq_false other]
  rfl

/-- A single line is written after the margin, or after what is in its line. -/
theorem chars_foldl_put (w : Writer) {c : Char} {cs : List Char} (line : '\n' ∉ c :: cs) :
    ((c :: cs).foldl put w).chars = w.chars ++ (w.lead ++ c :: cs) := by
  induction cs generalizing w c with
  | nil =>
    have other : c ≠ '\n' := fun same => line (same ▸ List.mem_cons_self)
    exact chars_put w other
  | cons d cs ih =>
    have other : c ≠ '\n' := fun same => line (same ▸ List.mem_cons_self)
    have later := ih (w.put c) fun member => line (List.mem_cons_of_mem _ member)
    rw [List.foldl_cons, later, chars_put w other, lead_put w other]
    simp

/-- A part of a line is written behind the margin. -/
theorem chars_write (w : Writer) {s : String} (line : '\n' ∉ s.toList) (inked : s.toList ≠ []) :
    (w.write s).chars = w.chars ++ (w.lead ++ s.toList) := by
  unfold write
  cases same : s.toList with
  | nil => exact absurd same inked
  | cons c cs =>
    rw [same] at line
    exact chars_foldl_put w line

/-- After a single line, nothing stands before the next character. -/
theorem lead_write (w : Writer) {s : String} (line : '\n' ∉ s.toList) (inked : s.toList ≠ []) :
    (w.write s).lead = [] := by
  have last := List.getLast_mem inked
  have other : s.toList.getLast inked ≠ '\n' := fun same => line (same ▸ last)
  rw [write, ← List.dropLast_concat_getLast inked, List.foldl_append]
  exact lead_put _ other

/-- A line is written behind the margin, with a line break at its end. -/
theorem chars_writeLine (w : Writer) {s : String} (line : '\n' ∉ s.toList)
    (inked : s.toList ≠ []) :
    (w.writeLine s).chars = w.chars ++ (w.lead ++ (s.toList ++ ['\n'])) := by
  rw [writeLine, write_append]
  have last : (w.write s).write "\n" = (w.write s).put '\n' := rfl
  rw [last, chars_put_newline, chars_write w line inked]
  simp

/-- A single line that is written first has no margin. -/
theorem text_write_start (unit : String) {s : String} (line : '\n' ∉ s.toList) :
    ((start unit).write s).text = s := by
  by_cases empty : s.toList = []
  · rw [write, empty, String.toList_eq_nil_iff.mp empty]
    rfl
  · apply String.toList_inj.mp
    have whole := chars_write (start unit) line empty
    simpa [chars, lead, margin, start] using whole

theorem chars_writeLine_nil (w : Writer) : (w.writeLine "").chars = w.chars ++ ['\n'] :=
  chars_put_newline w

/-- A character leaves the unit of indentation as it is. -/
theorem unit_put (w : Writer) (c : Char) : (w.put c).unit = w.unit := by
  unfold put
  split
  · rfl
  · split <;> rfl

/-- A text leaves the unit of indentation as it is. -/
theorem unit_write (w : Writer) (s : String) : (w.write s).unit = w.unit := by
  unfold write
  induction s.toList generalizing w with
  | nil => rfl
  | cons c cs ih => rw [List.foldl_cons, ih, unit_put]

/-- The text has only been added to, with the same indentation. -/
structure Grows (w v : Writer) : Prop where
  unit : v.unit = w.unit
  chars : w.chars <+: v.chars

theorem Grows.refl (w : Writer) : w.Grows w := ⟨rfl, List.prefix_rfl⟩

/-- What is added to twice is added to. -/
theorem Grows.trans {u v w : Writer} (first : u.Grows v) (second : v.Grows w) : u.Grows w :=
  ⟨second.unit.trans first.unit, first.chars.trans second.chars⟩

/-- A character only adds to a writer. -/
theorem grows_put (w : Writer) (c : Char) : w.Grows (w.put c) := by
  refine ⟨unit_put w c, ?_⟩
  by_cases newline : c = '\n'
  · subst newline
    exact ⟨_, (chars_put_newline w).symm⟩
  · exact ⟨_, (chars_put w newline).symm⟩

/-! ### Levels and margins -/

theorem level_writeLine (w : Writer) (s : String) : (w.writeLine s).level = w.level :=
  level_write w _

theorem level_indent (w : Writer) : w.indent.level = w.level + 1 := rfl

theorem level_outdent (w : Writer) : w.outdent.level = w.level - 1 := rfl

theorem lead_of_level {w : Writer} (level : w.level = 0) : w.lead = [] := by
  rw [lead, margin, level]
  split <;> rfl

/-- Where there is no margin, a character is added as it is. -/
theorem chars_put_of_lead {w : Writer} (bare : w.lead = []) (c : Char) :
    (w.put c).chars = w.chars ++ [c] := by
  by_cases newline : c = '\n'
  · rw [newline, chars_put_newline]
  · rw [chars_put w newline, bare, List.nil_append]

/-- At the lowest level, a text is added as it is. -/
theorem text_write_of_level {w : Writer} (level : w.level = 0) (s : String) :
    (w.write s).text = w.text ++ s := by
  have added (cs : List Char) : (cs.foldl put w).chars = w.chars ++ cs := by
    induction cs generalizing w with
    | nil => exact (List.append_nil _).symm
    | cons c cs ih =>
      rw [List.foldl_cons, ih ((level_put w c).trans level),
        chars_put_of_lead (lead_of_level level), List.append_assoc, List.singleton_append]
  apply String.toList_inj.mp
  rw [String.toList_append]
  exact added s.toList

/-- What is in a margin is of its unit. -/
theorem mem_of_mem_margin {w : Writer} {c : Char} (member : c ∈ w.margin.toList) :
    c ∈ w.unit.toList := by
  rw [margin, String.toList_join] at member
  obtain ⟨copy, listed, inside⟩ := List.mem_flatMap.mp member
  rwa [List.eq_of_mem_replicate listed] at inside

/-- A line with the margin before it, unless it is empty. -/
def marginLine (w : Writer) (line : List Char) : List Char :=
  if line.isEmpty then [] else w.margin.toList ++ line

/-- A line is written with its margin, if it is not empty. -/
theorem chars_write_line {w : Writer} (fresh : w.atLineStart = true) {line : List Char}
    (single : '\n' ∉ line) :
    (w.write (String.ofList line)).chars = w.chars ++ w.marginLine line := by
  cases line with
  | nil => simp [write, marginLine]
  | cons c cs =>
    have written := chars_write w (s := String.ofList (c :: cs)) (by simpa using single) (by simp)
    simpa [lead, fresh, marginLine] using written

/-- The margin is a matter of the level and the unit. -/
theorem marginLine_congr {v w : Writer} (level : v.level = w.level) (unit : v.unit = w.unit) :
    v.marginLine = w.marginLine := by
  funext line
  rw [marginLine, marginLine, margin, margin, level, unit]

/-- The first line of a text goes on with the line that it is written in. -/
theorem chars_write_first (w : Writer) {line : List Char} (single : '\n' ∉ line) :
    (w.write (String.ofList line)).chars =
      w.chars ++ if w.atLineStart then w.marginLine line else line := by
  split
  case isTrue fresh => exact chars_write_line fresh single
  case isFalse inside =>
    by_cases empty : line = []
    · rw [empty, List.append_nil]
      rfl
    · rw [chars_write w (by simpa using single) (by simpa using empty), lead, if_neg inside]
      simp

/-- Of a text of several lines, each but the first one begins at the start of a line. -/
theorem chars_write_cons (w : Writer) {first : List Char} {rest : List (List Char)}
    (single : ∀ line ∈ first :: rest, '\n' ∉ line) :
    (w.write (String.ofList (['\n'].intercalate (first :: rest)))).chars =
      w.chars ++ ['\n'].intercalate
        ((if w.atLineStart then w.marginLine first else first) :: rest.map w.marginLine) := by
  induction rest generalizing w first with
  | nil => simpa using w.chars_write_first (single first List.mem_cons_self)
  | cons next rest ih =>
    let v := (w.write (String.ofList first)).put '\n'
    have begun : v.atLineStart = true := rfl
    have chars : v.chars = w.chars ++ (if w.atLineStart then w.marginLine first else first) ++
        ['\n'] := by
      rw [chars_put_newline, w.chars_write_first (single first List.mem_cons_self)]
    have margins : v.marginLine = w.marginLine :=
      marginLine_congr (by rw [level_put, level_write]) (by rw [unit_put, unit_write])
    have cut : w.write (String.ofList (first ++ ['\n'] ++ ['\n'].intercalate (next :: rest))) =
        v.write (String.ofList (['\n'].intercalate (next :: rest))) := by
      rw [String.ofList_append, String.ofList_append, write_append, write_append]
      rfl
    have later := ih v fun line member => single line (List.mem_cons_of_mem _ member)
    rw [List.intercalate_cons_cons, cut, later, chars, if_pos begun, margins]
    simp only [List.map_cons, List.intercalate_cons_cons, List.append_assoc]

/-- Each of several lines stands after the margin, if there is anything on it. -/
theorem chars_write_lines {w : Writer} (fresh : w.atLineStart = true) {lines : List (List Char)}
    (single : ∀ line ∈ lines, '\n' ∉ line) :
    (w.write (String.ofList (['\n'].intercalate lines))).chars =
      w.chars ++ ['\n'].intercalate (lines.map w.marginLine) := by
  cases lines with
  | nil => simp [write]
  | cons first rest =>
    rw [chars_write_cons w single, if_pos fresh]
    rfl

end Writer

end CodecTables.Source
