import CodecTables.Proofs.Source.Writer
import CodecTables.Source.Print

/-!
# Strokes

All that is done to a writer is a list of strokes: characters that are put and changes of the level
of indentation. Printing does not look at its writer, so a node draws the same strokes with each
one, and goes through or stops at the same place. Its strokes are balanced: a level is opened
behind a line break only and is left again, also where the node has no text (`Node.steady_print`).
-/

namespace CodecTables.Source

variable {α β : Type}

/-- What is done to a writer: a character is put, or the level changes. -/
inductive Stroke where
  | put (c : Char)
  | indent
  | outdent

/-- The strokes of a text. -/
def puts (s : String) : List Stroke := s.toList.map .put

/-- The strokes of two texts are those of the first and of the second. -/
theorem puts_append (s t : String) : puts (s ++ t) = puts s ++ puts t := by
  rw [puts, String.toList_append, List.map_append]
  rfl

/-- The characters that are put by strokes. -/
def inked (strokes : List Stroke) : List Char :=
  strokes.filterMap fun
    | .put c => some c
    | .indent | .outdent => none

theorem inked_append (strokes strokes' : List Stroke) :
    inked (strokes ++ strokes') = inked strokes ++ inked strokes' :=
  List.filterMap_append

/-- The strokes of a text put its characters. -/
theorem inked_puts (s : String) : inked (puts s) = s.toList := by
  rw [inked, puts, List.filterMap_map]
  exact List.filterMap_some

namespace Writer

/-- The writer after a stroke. -/
def stroke (w : Writer) : Stroke → Writer
  | .put c => w.put c
  | .indent => w.indent
  | .outdent => w.outdent

/-- The writer after several strokes. -/
def draw (w : Writer) (strokes : List Stroke) : Writer := strokes.foldl stroke w

theorem draw_cons (w : Writer) (first : Stroke) (rest : List Stroke) :
    w.draw (first :: rest) = (w.stroke first).draw rest := rfl

theorem draw_append (w : Writer) (strokes strokes' : List Stroke) :
    w.draw (strokes ++ strokes') = (w.draw strokes).draw strokes' :=
  List.foldl_append

/-- The strokes of a text write it. -/
theorem draw_puts (w : Writer) (s : String) : w.draw (puts s) = w.write s :=
  List.foldl_map

/-- A block is drawn one level deeper, from the start of a line on. -/
theorem draw_block (w : Writer) (inner : List Stroke) :
    w.draw (.put '\n' :: .indent :: (inner ++ [.outdent])) =
      ((w.put '\n').indent.draw inner).outdent := by
  rw [draw_cons, draw_cons, draw_append]
  rfl

/-- A stroke only adds to a writer. -/
theorem grows_stroke (w : Writer) (stroke : Stroke) : w.Grows (w.stroke stroke) := by
  cases stroke with
  | put c => exact grows_put w c
  | indent | outdent => exact ⟨rfl, List.prefix_rfl⟩

/-- Strokes only add to a writer. -/
theorem grows_draw (w : Writer) (strokes : List Stroke) : w.Grows (w.draw strokes) := by
  induction strokes generalizing w with
  | nil => exact .refl w
  | cons first rest ih => exact (grows_stroke w first).trans (ih (w.stroke first))

/-- Without a unit of indentation there is no margin. -/
theorem margin_of_bare {w : Writer} (bare : w.unit = "") : w.margin = "" := by
  unfold margin
  rw [bare]
  induction w.level with
  | zero => rfl
  | succ n ih =>
    rw [List.replicate_succ, String.join_cons, ih]
    rfl

/-- Without a unit of indentation nothing stands before a line. -/
theorem lead_of_bare {w : Writer} (bare : w.unit = "") : w.lead = [] := by
  rw [lead, margin_of_bare bare]
  exact ite_self _

/-- Without a unit, only what is put is added. -/
theorem chars_draw_of_bare {w : Writer} (bare : w.unit = "") (strokes : List Stroke) :
    (w.draw strokes).chars = w.chars ++ inked strokes := by
  induction strokes generalizing w with
  | nil => exact (List.append_nil _).symm
  | cons first rest ih =>
    have unit : (w.stroke first).unit = "" := (w.grows_stroke first).unit.trans bare
    rw [draw_cons, ih unit]
    cases first with
    | put c =>
      change (w.put c).chars ++ inked rest = w.chars ++ c :: inked rest
      rw [chars_put_of_lead (lead_of_bare bare), List.append_assoc, List.singleton_append]
    | indent | outdent => rfl

/-- Without a unit, a text is added as it is. -/
theorem chars_write_of_bare {w : Writer} (bare : w.unit = "") (s : String) :
    (w.write s).chars = w.chars ++ s.toList := by
  rw [← draw_puts, chars_draw_of_bare bare, inked_puts]

end Writer

/-! ### Balanced strokes -/

/-- Each level that is opened is left again, and is opened behind a line break. -/
inductive Balanced : List Stroke → Prop
  | nil : Balanced []
  | put (c : Char) : Balanced [.put c]
  | append {strokes strokes' : List Stroke} :
      Balanced strokes → Balanced strokes' → Balanced (strokes ++ strokes')
  | block {inner : List Stroke} :
      Balanced inner → Balanced (.put '\n' :: .indent :: (inner ++ [.outdent]))

namespace Balanced

/-- The strokes of a text are balanced. -/
theorem puts (s : String) : Balanced (puts s) := by
  unfold Source.puts
  induction s.toList with
  | nil => exact .nil
  | cons c cs ih => exact (Balanced.put c).append ih

/-- Balanced strokes leave the level as it was. -/
theorem level_draw {strokes : List Stroke} (balanced : Balanced strokes) (w : Writer) :
    (w.draw strokes).level = w.level := by
  induction balanced generalizing w with
  | nil => rfl
  | put c => exact w.level_put c
  | append _ _ first second => rw [Writer.draw_append, second, first]
  | block _ ih =>
    rw [Writer.draw_block, Writer.level_outdent, ih, Writer.level_indent, Writer.level_put]
    rfl

end Balanced

/-! ### Steps of printing -/

namespace Print

/-- What a step gives, or why it stops, and the writer that it leaves. -/
def outcome (step : Print α) (w : Writer) : Except Unprintable α × Writer := step w

/-- A chain of two steps goes on from the writer that the first one leaves. -/
theorem outcome_bind (step : Print α) (next : α → Print β) (w : Writer) :
    outcome (step >>= next) w =
      match outcome step w with
      | (.ok a, v) => outcome (next a) v
      | (.error e, v) => (.error e, v) := by
  simp only [outcome, bind, ExceptT.bind, ExceptT.mk, StateT.bind, ExceptT.bindCont]
  rcases step w with ⟨_ | a, v⟩ <;> rfl

/-- With every writer, the step draws the strokes and ends in the same way. -/
def Draws (step : Print α) (strokes : List Stroke) (result : Except Unprintable α) : Prop :=
  ∀ w, outcome step w = (result, w.draw strokes)

/-- A chain of two steps draws the strokes of both. -/
theorem Draws.bind {step : Print α} {next : α → Print β} {strokes strokes' : List Stroke} {a : α}
    {result : Except Unprintable β} (first : Draws step strokes (.ok a))
    (second : Draws (next a) strokes' result) :
    Draws (step >>= next) (strokes ++ strokes') result := by
  intro w
  rw [outcome_bind, first w, Writer.draw_append]
  exact second _

/-- What stops at first is not gone on with. -/
theorem Draws.bind_error {step : Print α} {strokes : List Stroke} {e : Unprintable}
    (first : Draws step strokes (.error e)) (next : α → Print β) :
    Draws (step >>= next) strokes (.error e) := by
  intro w
  rw [outcome_bind, first w]

/-- To write a text draws its strokes. -/
theorem draws_write (s : String) : Draws (write s) (puts s) (.ok ()) := by
  intro w
  rw [Writer.draw_puts]
  rfl

/-- The level is left again however the inner step ends. -/
theorem Draws.indented {inner : Print Unit} {strokes : List Stroke}
    {result : Except Unprintable Unit} (draws : Draws inner strokes result) :
    Draws (indented inner) (.indent :: (strokes ++ [.outdent])) result := by
  intro w
  have inside : outcome (Print.indented inner) w =
      ((outcome inner w.indent).1, (outcome inner w.indent).2.outdent) := rfl
  rw [inside, draws, Writer.draw_cons, Writer.draw_append]
  rfl

/-- The step draws the same balanced strokes with every writer, whether it stops or not. -/
def Steady (step : Print α) : Prop :=
  ∃ strokes result, Balanced strokes ∧ Draws step strokes result

/-- A chain of two steady steps is steady. -/
theorem Steady.bind {step : Print α} {next : α → Print β} (first : Steady step)
    (second : ∀ a, Steady (next a)) : Steady (step >>= next) := by
  obtain ⟨strokes, result, balanced, draws⟩ := first
  cases result with
  | error e => exact ⟨strokes, .error e, balanced, draws.bind_error next⟩
  | ok a =>
    obtain ⟨strokes', result', balanced', draws'⟩ := second a
    exact ⟨_, result', balanced.append balanced', draws.bind draws'⟩

/-- A steady step only adds to a writer. -/
theorem Steady.grows {step : Print α} (steady : Steady step) (w : Writer) :
    w.Grows (outcome step w).2 := by
  obtain ⟨strokes, result, -, draws⟩ := steady
  rw [draws w]
  exact w.grows_draw strokes

/-- A steady step leaves the level as it is. -/
theorem Steady.level {step : Print α} (steady : Steady step) (w : Writer) :
    (outcome step w).2.level = w.level := by
  obtain ⟨strokes, result, balanced, draws⟩ := steady
  rw [draws w]
  exact balanced.level_draw w

theorem steady_pure (a : α) : Steady (pure a) := ⟨[], .ok a, .nil, fun _ => rfl⟩

theorem steady_throw (e : Unprintable) : Steady (throw e : Print α) :=
  ⟨[], .error e, .nil, fun _ => rfl⟩

theorem steady_write (s : String) : Steady (write s) := ⟨_, _, .puts s, draws_write s⟩

/-- To write a line is steady. -/
theorem steady_writeLine (s : String) : Steady (writeLine s) := steady_write (s ++ "\n")

/-- To write an integer is steady, whether it has a decimal or not. -/
theorem steady_writeInteger (before : String) (n : Int) (behind : String) :
    Steady (writeInteger before n behind) := by
  unfold writeInteger
  split
  · exact steady_write _
  · exact steady_throw _

/-- To write a number in hexadecimal is steady, whether its width fits or not. -/
theorem steady_writeHex (value width : Int) : Steady (writeHex value width) := by
  unfold writeHex
  split
  · exact steady_write _
  · exact steady_throw _

/-- A choice between two steady steps is steady. -/
theorem Steady.ite {condition : Prop} [Decidable condition] {step step' : Print α}
    (first : Steady step) (second : Steady step') : Steady (if condition then step else step') := by
  split
  · exact first
  · exact second

/-- What is printed one level deeper behind a line break is a block. -/
theorem Steady.block {inner : Print Unit} (steady : Steady inner) (s : String) :
    Steady (do
      writeLine s
      indented inner) := by
  obtain ⟨strokes, result, balanced, draws⟩ := steady
  refine ⟨_, result, (Balanced.puts s).append balanced.block, ?_⟩
  have drawn : Draws (do
      writeLine s
      indented inner) (puts (s ++ "\n") ++ .indent :: (strokes ++ [.outdent])) result :=
    (draws_write _).bind draws.indented
  rwa [puts_append, List.append_assoc] at drawn

/-- What is printed in braces. -/
theorem Steady.braces {inner : Print Unit} (steady : Steady inner) :
    Steady (do
      writeLine "\x7b"
      indented inner
      writeLine ""
      write "\x7d") := by
  have opened := (steady.block "\x7b").bind fun _ => (steady_writeLine "").bind fun _ =>
    steady_write "\x7d"
  rwa [bind_assoc] at opened

end Print

open Print

/-! ### Nodes -/

/-- The words before a declared variable. -/
def qualifiers (isStatic isConstant : Bool) : String :=
  (if isStatic then "static " else "") ++ (if isConstant then "const " else "")

/-- A declarator is printed as its words, its type, its name and the marks of its type. -/
theorem print_declarator (type identifier : Node) (isStatic isConstant : Bool) :
    (Node.declarator type identifier isStatic isConstant).print = (do
      write (qualifiers isStatic isConstant)
      type.print
      write " "
      identifier.print
      write (declaratorMarks type)) := by
  funext w
  cases isStatic <;> cases isConstant <;> rfl

theorem printAll_append (xs ys : List Node) :
    printAll (xs ++ ys) = (do
      printAll xs
      printAll ys) := by
  induction xs with
  | nil => exact (pure_bind () fun _ => printAll ys).symm
  | cons x xs ih => rw [List.cons_append, printAll, ih, printAll, bind_assoc]

theorem printLines_cons_cons (node next : Node) (rest : List Node) :
    printLines (node :: next :: rest) = (do
      node.print
      writeLine ","
      printLines (next :: rest)) := rfl

theorem bind_unit (step : Print Unit) : (step >>= fun _ => pure ()) = step := by
  funext w
  change outcome (step >>= fun _ => pure ()) w = outcome step w
  rw [outcome_bind]
  rcases outcome step w with ⟨_ | _, v⟩ <;> rfl

theorem printLines_singleton (node : Node) : printLines [node] = node.print :=
  bind_unit node.print

/-- What stands between the element at a place of a literal of bytes and the next one. -/
def rowBreak (place : Nat) : Print Unit :=
  if (place + 1) % bytesPerLine = 0 then writeLine "," else write ", "

theorem printRows_cons_cons (place : Nat) (node next : Node) (rest : List Node) :
    printRows place (node :: next :: rest) = (do
      node.print
      rowBreak place
      printRows (place + 1) (next :: rest)) := by
  by_cases full : (place + 1) % bytesPerLine = 0
  · simp only [printRows, rowBreak, if_pos full]
    rfl
  · simp only [printRows, rowBreak, if_neg full]
    rfl

theorem printRows_singleton (place : Nat) (node : Node) : printRows place [node] = node.print :=
  bind_unit node.print

/-- A break between bytes is steady. -/
theorem steady_rowBreak (place : Nat) : Steady (rowBreak place) :=
  (steady_writeLine _).ite (steady_write _)

mutual

/-- Printing a node draws the same balanced strokes with every writer. -/
theorem Node.steady_print : ∀ node : Node, Steady node.print
  | .root r => steady_throw _
  | .arrayType element => element.steady_print
  | .charType => steady_write _
  | .pointerType pointee => pointee.steady_print.bind fun _ => steady_write _
  | .sizeType => steady_write _
  | .structType _ => steady_write _
  | .uintType _ => steady_writeInteger _ _ _
  | .literal elements => (steady_printLines elements).braces
  | .bytesLiteral elements => (steady_printRows 0 elements).braces
  | .boolean _ => steady_write _
  | .integer _ => steady_writeInteger _ _ _
  | .hexInteger _ _ => steady_writeHex _ _
  | .string _ => steady_write _
  | .identifier _ => steady_write _
  | .lookup array index =>
    array.steady_print.bind fun _ => (steady_write _).bind fun _ =>
      index.steady_print.bind fun _ => steady_write _
  | .addressOf expression => (steady_write _).bind fun _ => expression.steady_print
  | .nullPointer => steady_write _
  | .declarator type identifier isStatic isConstant => by
    rw [print_declarator]
    exact (steady_write _).bind fun _ => type.steady_print.bind fun _ =>
      (steady_write _).bind fun _ => identifier.steady_print.bind fun _ => steady_write _
  | .assign declarator value =>
    declarator.steady_print.bind fun _ => (steady_write _).bind fun _ =>
      value.steady_print.bind fun _ => (steady_writeLine _).bind fun _ => steady_writeLine _
  | .inclusion _ => (steady_writeLine _).bind fun _ => steady_writeLine _
  | .comment _ => (steady_write _).bind fun _ => steady_writeLine _
  | .sourceCode statements => steady_printAll statements
  | .block statements => steady_printAll statements

/-- To print nodes one after the other is steady. -/
theorem steady_printAll : ∀ nodes : List Node, Steady (printAll nodes)
  | [] => steady_pure _
  | node :: rest => node.steady_print.bind fun _ => steady_printAll rest

/-- To print nodes on lines is steady. -/
theorem steady_printLines : ∀ nodes : List Node, Steady (printLines nodes)
  | [] => steady_pure _
  | [node] => by
    rw [printLines_singleton]
    exact node.steady_print
  | node :: next :: rest => by
    rw [printLines_cons_cons]
    exact node.steady_print.bind fun _ => (steady_writeLine _).bind fun _ =>
      steady_printLines (next :: rest)

/-- To print nodes in rows is steady. -/
theorem steady_printRows (place : Nat) : ∀ nodes : List Node, Steady (printRows place nodes)
  | [] => steady_pure _
  | [node] => by
    rw [printRows_singleton]
    exact node.steady_print
  | node :: next :: rest => by
    rw [printRows_cons_cons]
    exact node.steady_print.bind fun _ => (steady_rowBreak place).bind fun _ =>
      steady_printRows (place + 1) (next :: rest)

end

end CodecTables.Source
