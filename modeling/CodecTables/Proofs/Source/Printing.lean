import CodecTables.Proofs.Source.Stroke

/-!
# Runs of printing

A run of a step leads from one writer to another, and the strokes of the step have only added to
the text (`Prints.grows`). A literal is its elements, one after the other with a comma between two
(`PrintsEach`), in braces (`prints_braces`).
-/

namespace CodecTables.Source

open Print

/-- The step goes through, and leads from one writer to another. -/
def Prints (step : Print Unit) (w v : Writer) : Prop := outcome step w = (.ok (), v)

section Runs

variable {step next : Print Unit} {u v w : Writer}

theorem Prints.grows (run : Prints step w v) (steady : Steady step) : w.Grows v := by
  have grown := steady.grows w
  rwa [show outcome step w = _ from run] at grown

/-- A chain of two steps prints by way of a writer between them. -/
theorem prints_bind :
    Prints (step >>= fun _ => next) w v ↔ ∃ u, Prints step w u ∧ Prints next u v := by
  unfold Prints
  rw [outcome_bind]
  rcases outcome step w with ⟨_ | _, u⟩ <;> simp

/-- To do nothing leaves the writer as it is. -/
theorem prints_pure : Prints (pure ()) w v ↔ v = w := by
  have run : outcome (pure ()) w = (.ok (), w) := rfl
  simp [Prints, run, eq_comm]

theorem prints_write {s : String} : Prints (write s) w v ↔ v = w.write s := by
  have run : outcome (write s) w = (.ok (), w.write s) := rfl
  simp [Prints, run, eq_comm]

theorem prints_writeLine {s : String} : Prints (writeLine s) w v ↔ v = w.writeLine s := by
  have run : outcome (writeLine s) w = (.ok (), w.writeLine s) := rfl
  simp [Prints, run, eq_comm]

/-- A step one level deeper prints between two changes of the level. -/
theorem prints_indented :
    Prints (indented step) w v ↔ ∃ u, Prints step w.indent u ∧ v = u.outdent := by
  have run : outcome (indented step) w =
      ((outcome step w.indent).1, (outcome step w.indent).2.outdent) := rfl
  unfold Prints
  rw [run]
  rcases outcome step w.indent with ⟨_ | _, u⟩ <;> simp [eq_comm]

/-- An integer that is printed is written in decimal. -/
theorem eq_of_prints_writeInteger {before behind : String} {n : Int}
    (run : Prints (writeInteger before n behind) w v) :
    v = w.write (before ++ Text.decimal n ++ behind) := by
  unfold writeInteger Text.decimal? at run
  by_cases short : Text.hasDecimal n = true
  · rw [if_pos short] at run
    exact prints_write.mp run
  · rw [if_neg short] at run
    cases run

/-- A number that was written in hexadecimal has a text. -/
theorem eq_of_prints_writeHex {value width : Int} (run : Prints (writeHex value width) w v) :
    ∃ text, hexText value width = .ok text ∧ v = w.write text := by
  unfold writeHex at run
  cases written : hexText value width with
  | ok text =>
    rw [written] at run
    exact ⟨text, rfl, prints_write.mp run⟩
  | error e =>
    rw [written] at run
    cases run

theorem prints_printAll_append {as bs : List Node} {w v : Writer} :
    Prints (printAll (as ++ bs)) w v ↔
      ∃ u, Prints (printAll as) w u ∧ Prints (printAll bs) u v := by
  rw [printAll_append]
  exact prints_bind

/-- A node is rendered with a new writer. -/
theorem Node.render_eq (unit : String) (node : Node) :
    node.render unit = (outcome node.print (.start unit)).1.map
      fun _ => (outcome node.print (.start unit)).2.text := by
  have same : node.print (.start unit) = outcome node.print (.start unit) := rfl
  rw [Node.render, same]
  rcases outcome node.print (.start unit) with ⟨_ | _, v⟩ <;> rfl

/-- A node that is printed as a single line has this line for its text. -/
theorem render_of_print {node : Node} {s : String} (prints : node.print = write s)
    (line : '\n' ∉ s.toList) (unit : String) : node.render unit = .ok s := by
  have text := Writer.text_write_start unit line
  unfold Node.render
  rw [prints]
  exact congrArg Except.ok text

/-- A text of a source is what is written when all of it is printed. -/
theorem exists_prints_of_render {statements : List Node} {unit text : String}
    (rendered : (Node.sourceCode statements).render unit = .ok text) :
    ∃ v, Prints (printAll statements) (.start unit) v ∧ v.text = text := by
  have same : outcome (printAll statements) (.start unit) =
      (Node.sourceCode statements).print (.start unit) := rfl
  unfold Node.render at rendered
  rw [← same] at rendered
  rcases run : outcome (printAll statements) (.start unit) with ⟨_ | _, v⟩
  · rw [run] at rendered
    cases rendered
  · rw [run] at rendered
    exact ⟨v, run, Except.ok.inj rendered⟩

/-- Elements are printed one after the other, with a step between two of them that may depend on
their place. -/
inductive PrintsEach (between : Nat → Print Unit) : Nat → Writer → List Node → Writer → Prop
  | nil (place : Nat) (w : Writer) : PrintsEach between place w [] w
  | last {place : Nat} {w v : Writer} {node : Node} :
      Prints node.print w v → PrintsEach between place w [node] v
  | cons {place : Nat} {w u u' v : Writer} {node next : Node} {rest : List Node} :
      Prints node.print w u → Prints (between place) u u' →
      PrintsEach between (place + 1) u' (next :: rest) v →
      PrintsEach between place w (node :: next :: rest) v

/-- Rows of bytes are printed one by one with their breaks. -/
theorem printsEach_of_printRows {place : Nat} {nodes : List Node}
    (run : Prints (printRows place nodes) w v) : PrintsEach rowBreak place w nodes v := by
  induction nodes generalizing place w with
  | nil =>
    rw [prints_pure.mp run]
    exact .nil place w
  | cons node rest ih =>
    cases rest with
    | nil =>
      rw [printRows_singleton] at run
      exact .last run
    | cons next rest =>
      rw [printRows_cons_cons] at run
      obtain ⟨u, first, run⟩ := prints_bind.mp run
      obtain ⟨u', between, later⟩ := prints_bind.mp run
      exact .cons first between (ih later)

/-- The elements of a literal are on lines of their own. -/
def lineBreak (_ : Nat) : Print Unit := writeLine ","

/-- Elements on lines are printed one by one with their breaks. -/
theorem printsEach_of_printLines (place : Nat) {nodes : List Node}
    (run : Prints (printLines nodes) w v) : PrintsEach lineBreak place w nodes v := by
  induction nodes generalizing place w with
  | nil =>
    rw [prints_pure.mp run]
    exact .nil place w
  | cons node rest ih =>
    cases rest with
    | nil =>
      rw [printLines_singleton] at run
      exact .last run
    | cons next rest =>
      rw [printLines_cons_cons] at run
      obtain ⟨u, first, run⟩ := prints_bind.mp run
      obtain ⟨u', between, later⟩ := prints_bind.mp run
      exact .cons first between (ih (place + 1) later)

/-- What is printed in braces begins a line, and a line break and the closing brace come after
it. -/
theorem prints_braces (run : Prints (do
    writeLine "\x7b"
    indented step
    writeLine ""
    write "\x7d") w v) :
    ∃ u rest, Prints step (w.writeLine "\x7b").indent u ∧ v.chars = u.chars ++ '\n' :: rest ∧
      v.lead = [] := by
  simp only [prints_bind, prints_writeLine, prints_indented, prints_write] at run
  obtain ⟨_, rfl, _, ⟨u, inner, rfl⟩, _, rfl, rfl⟩ := run
  have brace : '\n' ∉ ("\x7d" : String).toList := by decide
  refine ⟨u, (u.outdent.writeLine "").lead ++ ['\x7d'], inner, ?_, Writer.lead_write _ brace (by
    decide)⟩
  rw [Writer.chars_write _ brace (by decide), Writer.chars_writeLine_nil, List.append_assoc]
  rfl

end Runs

end CodecTables.Source
