import CodecTables.Proofs.Source.Printing

/-!
# Nodes one after the other

A node that is printed behind others adds the text that it has by itself, also where it stops. At
the lowest level there is no margin by which it would show whether a line has begun, and a block
begins with a line of its own (`Behind.draw`). So the text of a sequence is the texts of its nodes,
and no node changes the layout of a later one.
-/

namespace CodecTables.Source

open Print

variable {α : Type}

/-- A writer has what another one has, behind some other text. Above the lowest level, they are at
the same place of a line. -/
structure Behind (front : List Char) (v w : Writer) : Prop where
  unit : w.unit = v.unit
  level : w.level = v.level
  chars : w.chars = front ++ v.chars
  fresh : 0 < v.level → w.atLineStart = v.atLineStart

namespace Behind

variable {front : List Char} {v w : Writer}

theorem start (level : w.level = 0) : Behind w.chars (.start w.unit) w where
  unit := rfl
  level := level
  chars := (List.append_nil _).symm
  fresh := fun above => absurd above (Nat.lt_irrefl 0)

/-- At the lowest level there is no margin, so the start of a line does not matter. -/
theorem lead (behind : Behind front v w) : w.lead = v.lead := by
  by_cases lowest : v.level = 0
  · rw [Writer.lead_of_level lowest, Writer.lead_of_level (behind.level.trans lowest)]
  · have fresh := behind.fresh (Nat.pos_of_ne_zero lowest)
    rw [Writer.lead, Writer.lead, Writer.margin, Writer.margin, fresh, behind.level, behind.unit]

/-- A character that both writers take keeps one behind the other. -/
theorem put (behind : Behind front v w) (c : Char) : Behind front (v.put c) (w.put c) where
  unit := by rw [Writer.unit_put, Writer.unit_put, behind.unit]
  level := by rw [Writer.level_put, Writer.level_put, behind.level]
  chars := by
    by_cases newline : c = '\n'
    · rw [newline, Writer.chars_put_newline, Writer.chars_put_newline, behind.chars,
        List.append_assoc]
    · rw [Writer.chars_put w newline, Writer.chars_put v newline, behind.lead, behind.chars,
        List.append_assoc]
  fresh := fun _ => by rw [Writer.atLineStart_put, Writer.atLineStart_put]

/-- A block begins with a line of its own. -/
theorem opened (behind : Behind front v w) :
    Behind front (v.put '\n').indent (w.put '\n').indent where
  unit := (behind.put '\n').unit
  level := congrArg (· + 1) (behind.put '\n').level
  chars := (behind.put '\n').chars
  fresh := fun _ => rfl

/-- A level that both writers leave keeps one behind the other. -/
theorem outdent (behind : Behind front v w) : Behind front v.outdent w.outdent where
  unit := behind.unit
  level := congrArg (· - 1) behind.level
  chars := behind.chars
  fresh := fun above => behind.fresh (Nat.lt_of_lt_of_le above (Nat.sub_le _ _))

/-- Balanced strokes keep one writer behind the other. -/
theorem draw {strokes : List Stroke} (balanced : Balanced strokes) (behind : Behind front v w) :
    Behind front (v.draw strokes) (w.draw strokes) := by
  induction balanced generalizing v w with
  | nil => exact behind
  | put c => exact behind.put c
  | append _ _ first second =>
    rw [Writer.draw_append, Writer.draw_append]
    exact second (first behind)
  | block _ ih =>
    rw [Writer.draw_block, Writer.draw_block]
    exact (ih behind.opened).outdent

end Behind

namespace Print

/-- At the lowest level, a step adds the text that it has by itself, and ends in the same way. -/
theorem Steady.alone {step : Print α} (steady : Steady step) {w : Writer} (level : w.level = 0) :
    (outcome step w).1 = (outcome step (.start w.unit)).1 ∧
      (outcome step w).2.chars = w.chars ++ (outcome step (.start w.unit)).2.chars := by
  obtain ⟨strokes, result, balanced, draws⟩ := steady
  rw [draws w, draws]
  exact ⟨rfl, ((Behind.start level).draw balanced).chars⟩

end Print

/-- The writer after nodes that are printed one after the other, however each of them ends. -/
def Writer.printEach (w : Writer) (nodes : List Node) : Writer :=
  nodes.foldl (fun w node => (outcome node.print w).2) w

theorem chars_printEach {w : Writer} (level : w.level = 0) (nodes : List Node) :
    (w.printEach nodes).chars =
      w.chars ++ nodes.flatMap fun node => (outcome node.print (.start w.unit)).2.chars := by
  induction nodes generalizing w with
  | nil => exact (List.append_nil _).symm
  | cons node rest ih =>
    have unit := (node.steady_print.grows w).unit
    have later := ih ((node.steady_print.level w).trans level)
    rw [unit, (node.steady_print.alone level).2, List.append_assoc] at later
    exact later

/-- The text of a source in two parts is the two texts, or what is wrong with the first of them that
has none. -/
theorem render_append (unit : String) (xs ys : List Node) :
    (Node.sourceCode (xs ++ ys)).render unit = do
      return (← (Node.sourceCode xs).render unit) ++ (← (Node.sourceCode ys).render unit) := by
  have whole : (Node.sourceCode (xs ++ ys)).print = (do printAll xs; printAll ys) :=
    printAll_append xs ys
  have first : (Node.sourceCode xs).print = printAll xs := rfl
  have second : (Node.sourceCode ys).print = printAll ys := rfl
  rw [Node.render_eq, Node.render_eq, Node.render_eq, whole, first, second, outcome_bind]
  have grown := (steady_printAll xs).grows (.start unit)
  have level := (steady_printAll xs).level (.start unit)
  rcases run : outcome (printAll xs) (.start unit) with ⟨_ | _, v⟩
  · rfl
  · rw [run] at grown level
    obtain ⟨ends, chars⟩ := (steady_printAll ys).alone level
    rw [show v.unit = unit from grown.unit] at ends chars
    have text : (outcome (printAll ys) v).2.text =
        v.text ++ (outcome (printAll ys) (.start unit)).2.text := by
      rw [← String.toList_inj, String.toList_append]
      exact chars
    dsimp only
    rw [ends, text]
    rcases outcome (printAll ys) (.start unit) with ⟨_ | _, u⟩ <;> rfl

/-- A node only adds to a text and leaves the level as it was, whether it is printed or stops. At
the lowest level it adds what it has by itself, so it does not matter what was printed before. -/
theorem printed_apart :
    (∀ (node : Node) (w : Writer),
      w.Grows (outcome node.print w).2 ∧ (outcome node.print w).2.level = w.level) ∧
    (∀ (nodes : List Node) (w : Writer), w.level = 0 → (w.printEach nodes).chars =
      w.chars ++ nodes.flatMap fun node => (outcome node.print (.start w.unit)).2.chars) ∧
    ∀ (unit : String) (xs ys : List Node), (Node.sourceCode (xs ++ ys)).render unit = do
      return (← (Node.sourceCode xs).render unit) ++ (← (Node.sourceCode ys).render unit) :=
  ⟨fun node w => ⟨node.steady_print.grows w, node.steady_print.level w⟩,
    fun nodes _ level => chars_printEach level nodes, render_append⟩

end CodecTables.Source
