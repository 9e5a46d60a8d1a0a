import CodecTables.Proofs.Source.Legible

/-!
# Nodes that have a text

A node has a text unless there is something in it that cannot be written: a node of a root class, a
number in hexadecimal whose width is too large, or an integer in decimal with too many digits
(`exists_render_iff_printable`). In a statement that can be read off its text only the last is met
(`Legible.plain`).
-/

namespace CodecTables.Source

open Print

mutual

/-- Everything in the node can be written. -/
def Node.Printable : Node → Prop
  | .root _ => False
  | .arrayType element => element.Printable
  | .pointerType pointee => pointee.Printable
  | .uintType bits => Text.hasDecimal bits = true
  | .literal elements => AllPrintable elements
  | .bytesLiteral elements => AllPrintable elements
  | .integer value => Text.hasDecimal value = true
  | .hexInteger value width => (hexText value width).isOk = true
  | .lookup array index => array.Printable ∧ index.Printable
  | .addressOf expression => expression.Printable
  | .declarator type identifier _ _ => type.Printable ∧ identifier.Printable
  | .assign declarator value => declarator.Printable ∧ value.Printable
  | .sourceCode statements => AllPrintable statements
  | .block statements => AllPrintable statements
  | .charType | .sizeType | .structType _ | .boolean _ | .string _ | .identifier _ | .nullPointer
  | .inclusion _ | .comment _ => True

/-- All of the nodes have a text. -/
def AllPrintable : List Node → Prop
  | [] => True
  | node :: rest => node.Printable ∧ AllPrintable rest

end

/-- From every writer, the step goes through if and only if the condition holds. -/
def GoesIff (step : Print Unit) (condition : Prop) : Prop :=
  ∀ w, (∃ v, Prints step w v) ↔ condition

namespace GoesIff

variable {step next : Print Unit} {first second : Prop}

/-- A chain of two steps goes through if both do. -/
theorem bind (begins : GoesIff step first) (goes : GoesIff next second) :
    GoesIff (step >>= fun _ => next) (first ∧ second) := by
  intro w
  simp only [prints_bind]
  constructor
  · rintro ⟨v, u, before, after⟩
    exact ⟨(begins w).mp ⟨u, before⟩, (goes u).mp ⟨v, after⟩⟩
  · rintro ⟨holds, holds'⟩
    obtain ⟨u, before⟩ := (begins w).mpr holds
    obtain ⟨v, after⟩ := (goes u).mpr holds'
    exact ⟨v, u, before, after⟩

/-- A step that always goes through, before another one. -/
theorem skip (begins : GoesIff step True) (goes : GoesIff next second) :
    GoesIff (step >>= fun _ => next) second := by
  intro w
  rw [bind begins goes w, true_and]

/-- A step that always goes through, after another one. -/
theorem last (begins : GoesIff step first) (goes : GoesIff next True) :
    GoesIff (step >>= fun _ => next) first := by
  intro w
  rw [bind begins goes w, and_true]

theorem pure : GoesIff (pure ()) True :=
  fun w => ⟨fun _ => trivial, fun _ => ⟨w, prints_pure.mpr rfl⟩⟩

theorem throw (reason : Unprintable) : GoesIff (throw reason) False := by
  intro w
  refine ⟨?_, False.elim⟩
  rintro ⟨v, run⟩
  cases run

theorem write (s : String) : GoesIff (write s) True :=
  fun _ => ⟨fun _ => trivial, fun _ => ⟨_, prints_write.mpr rfl⟩⟩

/-- Writing a line goes through. -/
theorem writeLine (s : String) : GoesIff (writeLine s) True :=
  fun _ => ⟨fun _ => trivial, fun _ => ⟨_, prints_writeLine.mpr rfl⟩⟩

/-- A step goes through one level deeper if it does. -/
theorem indented (inner : GoesIff step first) : GoesIff (indented step) first := by
  intro w
  rw [← inner w.indent]
  simp only [prints_indented]
  constructor
  · rintro ⟨_, u, run, _⟩
    exact ⟨u, run⟩
  · rintro ⟨u, run⟩
    exact ⟨_, u, run, rfl⟩

/-- Writing an integer goes through if it has a decimal. -/
theorem writeInteger (before : String) (n : Int) (behind : String) :
    GoesIff (writeInteger before n behind) (Text.hasDecimal n = true) := by
  intro w
  unfold Print.writeInteger Text.decimal?
  by_cases short : Text.hasDecimal n = true
  · rw [if_pos short]
    exact ⟨fun _ => short, fun _ => ⟨_, prints_write.mpr rfl⟩⟩
  · rw [if_neg short]
    refine ⟨?_, fun holds => absurd holds short⟩
    rintro ⟨v, run⟩
    cases run

/-- Writing a number in hexadecimal goes through if its width fits. -/
theorem writeHex (value width : Int) :
    GoesIff (writeHex value width) ((hexText value width).isOk = true) := by
  intro w
  unfold Print.writeHex
  cases hexText value width with
  | ok text => exact ⟨fun _ => rfl, fun _ => ⟨_, prints_write.mpr rfl⟩⟩
  | error e =>
    refine ⟨?_, fun holds => Bool.noConfusion holds⟩
    rintro ⟨v, run⟩
    cases run

end GoesIff

/-- A break between bytes goes through. -/
theorem goesIff_rowBreak (place : Nat) : GoesIff (rowBreak place) True := by
  unfold rowBreak
  split
  · exact .writeLine _
  · exact .write _

mutual

/-- A node goes through printing if and only if everything in it can be written. -/
theorem Node.goesIff_print : ∀ node : Node, GoesIff node.print node.Printable
  | .root r => .throw _
  | .arrayType element => element.goesIff_print
  | .charType => .write _
  | .pointerType pointee => pointee.goesIff_print.last (.write _)
  | .sizeType => .write _
  | .structType _ => .write _
  | .uintType _ => .writeInteger _ _ _
  | .literal elements =>
    .skip (.writeLine _) (.last (.indented (goesIff_printLines elements))
      (.skip (.writeLine _) (.write _)))
  | .bytesLiteral elements =>
    .skip (.writeLine _) (.last (.indented (goesIff_printRows 0 elements))
      (.skip (.writeLine _) (.write _)))
  | .boolean _ => .write _
  | .integer _ => .writeInteger _ _ _
  | .hexInteger _ _ => .writeHex _ _
  | .string _ => .write _
  | .identifier _ => .write _
  | .lookup array index =>
    array.goesIff_print.bind (.skip (.write _) (index.goesIff_print.last (.write _)))
  | .addressOf expression => .skip (.write _) expression.goesIff_print
  | .nullPointer => .write _
  | .declarator type identifier isStatic isConstant => by
    rw [print_declarator]
    exact .skip (.write _) (type.goesIff_print.bind
      (.skip (.write _) (identifier.goesIff_print.last (.write _))))
  | .assign declarator value =>
    declarator.goesIff_print.bind (.skip (.write _)
      (value.goesIff_print.last (.skip (.writeLine _) (.writeLine _))))
  | .inclusion _ => .skip (.writeLine _) (.writeLine _)
  | .comment _ => .skip (.write _) (.writeLine _)
  | .sourceCode statements => goesIff_printAll statements
  | .block statements => goesIff_printAll statements

/-- Nodes are printed one after the other if they have a text. -/
theorem goesIff_printAll : ∀ nodes : List Node, GoesIff (printAll nodes) (AllPrintable nodes)
  | [] => .pure
  | node :: rest => node.goesIff_print.bind (goesIff_printAll rest)

/-- Nodes are printed on lines if they have a text. -/
theorem goesIff_printLines : ∀ nodes : List Node, GoesIff (printLines nodes) (AllPrintable nodes)
  | [] => .pure
  | [node] => by
    rw [printLines_singleton, AllPrintable, AllPrintable, and_true]
    exact node.goesIff_print
  | node :: next :: rest => by
    rw [printLines_cons_cons]
    exact node.goesIff_print.bind (.skip (.writeLine _) (goesIff_printLines (next :: rest)))

/-- Nodes are printed in rows if they have a text. -/
theorem goesIff_printRows (place : Nat) :
    ∀ nodes : List Node, GoesIff (printRows place nodes) (AllPrintable nodes)
  | [] => .pure
  | [node] => by
    rw [printRows_singleton, AllPrintable, AllPrintable, and_true]
    exact node.goesIff_print
  | node :: next :: rest => by
    rw [printRows_cons_cons]
    exact node.goesIff_print.bind
      (.skip (goesIff_rowBreak place) (goesIff_printRows (place + 1) (next :: rest)))

end

/-- Statements have a text if and only if everything in them can be written. -/
theorem exists_render_iff_printable (statements : List Node) (unit : String) :
    (∃ text, (Node.sourceCode statements).render unit = .ok text) ↔ AllPrintable statements := by
  rw [← goesIff_printAll statements (.start unit)]
  have same : outcome (printAll statements) (.start unit) =
      (Node.sourceCode statements).print (.start unit) := rfl
  unfold Node.render Prints
  rw [← same]
  rcases outcome (printAll statements) (.start unit) with ⟨reason | _, w⟩
  · simp
  · simp

/-! ### Decimal integers -/

mutual

/-- The integers of a node that are written in decimal. -/
def Node.decimals : Node → List Int
  | .arrayType element => element.decimals
  | .pointerType pointee => pointee.decimals
  | .uintType bits => [bits]
  | .literal elements => decimalsOf elements
  | .bytesLiteral elements => decimalsOf elements
  | .integer value => [value]
  | .lookup array index => array.decimals ++ index.decimals
  | .addressOf expression => expression.decimals
  | .declarator type identifier _ _ => type.decimals ++ identifier.decimals
  | .assign declarator value => declarator.decimals ++ value.decimals
  | .sourceCode statements => decimalsOf statements
  | .block statements => decimalsOf statements
  | .root _ | .charType | .sizeType | .structType _ | .boolean _ | .hexInteger _ _ | .string _
  | .identifier _ | .nullPointer | .inclusion _ | .comment _ => []

/-- The integers that nodes show in decimal. -/
def decimalsOf : List Node → List Int
  | [] => []
  | node :: rest => node.decimals ++ decimalsOf rest

end

theorem decimalsOf_eq (nodes : List Node) : decimalsOf nodes = nodes.flatMap Node.decimals := by
  induction nodes with
  | nil => rfl
  | cons node rest ih => rw [decimalsOf, ih, List.flatMap_cons]

/-- Nodes have a text if each of them does. -/
theorem allPrintable_iff (nodes : List Node) :
    AllPrintable nodes ↔ ∀ node ∈ nodes, node.Printable := by
  induction nodes with
  | nil => simp [AllPrintable]
  | cons node rest ih => rw [AllPrintable, ih, List.forall_mem_cons]

/-- Only the decimal integers of the node decide whether it can be written. -/
def Node.Plain (node : Node) : Prop :=
  node.Printable ↔ ∀ n ∈ node.decimals, Text.hasDecimal n = true

/-- Plain nodes have a text if their integers have decimals. -/
theorem allPrintable_iff_of_plain {nodes : List Node} (plain : ∀ node ∈ nodes, node.Plain) :
    AllPrintable nodes ↔ ∀ n ∈ decimalsOf nodes, Text.hasDecimal n = true := by
  rw [allPrintable_iff, decimalsOf_eq]
  constructor
  · intro printable n member
    obtain ⟨node, inside, listed⟩ := List.mem_flatMap.mp member
    exact (plain node inside).mp (printable node inside) n listed
  · intro short node inside
    exact (plain node inside).mpr fun n listed =>
      short n (List.mem_flatMap.mpr ⟨node, inside, listed⟩)

/-- A literal of plain nodes is plain. -/
theorem plain_literal {nodes : List Node} (plain : ∀ node ∈ nodes, node.Plain) :
    (Node.literal nodes).Plain :=
  allPrintable_iff_of_plain plain

theorem plain_bytesOf (data : List UInt8) : (bytesOf data).Plain := by
  refine allPrintable_iff_of_plain fun node member => ?_
  obtain ⟨byte, _, rfl⟩ := List.mem_map.mp member
  exact ⟨fun _ _ absurd => (List.not_mem_nil absurd).elim, fun _ => rfl⟩

/-- The widths of hexadecimal numbers in a form can be written. -/
def Form.widthsFit : Form → Bool
  | .hexadecimal width => (Text.lengthOf .format (max (Int.fdiv width 4) 1)).isOk
  | .row fields => allWidthsFit fields
  | .list element => element.widthsFit
  | _ => true
where
  allWidthsFit : List Form → Bool
    | [] => true
    | form :: rest => form.widthsFit && allWidthsFit rest

/-- A number has a text in hexadecimal if its width fits. -/
theorem isOk_hexText {value width : Int}
    (fits : (Text.lengthOf .format (max (Int.fdiv width 4) 1)).isOk = true) :
    (hexText value width).isOk = true := by
  unfold hexText
  rcases given : Text.lengthOf .format (max (Int.fdiv width 4) 1) with excess | length
  · rw [given] at fits
    cases fits
  · rfl

mutual

/-- An expression of a form is plain. -/
theorem Form.Fits.plain {declared : String → Node → Prop} {form : Form} {node : Node}
    (fits : form.Fits declared node) (widths : form.widthsFit = true) : node.Plain := by
  cases form with
  | boolean =>
    obtain ⟨value, rfl⟩ := fits
    simp [Node.Plain, Node.Printable, Node.decimals]
  | integer =>
    obtain ⟨value, rfl⟩ := fits
    simp [Node.Plain, Node.Printable, Node.decimals]
  | hexadecimal width =>
    obtain ⟨value, rfl⟩ := fits
    exact ⟨fun _ _ absurd => (List.not_mem_nil absurd).elim, fun _ => isOk_hexText widths⟩
  | text =>
    obtain ⟨content, rfl⟩ := fits
    simp [Node.Plain, Node.Printable, Node.decimals]
  | bytes =>
    obtain ⟨data, rfl⟩ := fits
    exact plain_bytesOf data
  | array element =>
    obtain ⟨name, _, rfl⟩ := fits
    simp [Node.Plain, Node.Printable, Node.decimals]
  | optional element =>
    rcases fits with rfl | ⟨name, _, rfl⟩
    · simp [Node.Plain, Node.Printable, Node.decimals]
    · simp [Node.Plain, Node.Printable, Node.decimals]
  | place struct =>
    obtain ⟨name, index, _, rfl⟩ := fits
    simp [Node.Plain, Node.Printable, Node.decimals]
  | unloaded =>
    rw [show node = .identifier unloadedName from fits]
    simp [Node.Plain, Node.Printable, Node.decimals]
  | model =>
    obtain ⟨model, rfl⟩ := fits
    simp [Node.Plain, Node.Printable, Node.decimals]
  | row fields =>
    obtain ⟨nodes, rfl, each⟩ := fits
    exact plain_literal (FitEach.plain each widths)
  | list element =>
    obtain ⟨nodes, rfl, each⟩ := fits
    exact plain_literal fun node member => (each node member).plain widths

theorem FitEach.plain {declared : String → Node → Prop} {forms : List Form} {nodes : List Node}
    (fits : FitEach declared forms nodes) (widths : Form.widthsFit.allWidthsFit forms = true) :
    ∀ node ∈ nodes, node.Plain := by
  cases forms with
  | nil =>
    rw [show nodes = [] from fits]
    exact nofun
  | cons form forms =>
    obtain ⟨first, rest, rfl, here, later⟩ := fits
    obtain ⟨width, widths⟩ := Bool.and_eq_true_iff.mp widths
    intro node member
    rcases List.mem_cons.mp member with rfl | inside
    · exact here.plain width
    · exact FitEach.plain later widths node inside

end

/-- The widths in the form of a value fit. -/
theorem widthsFit_of_valueForm? {type : Node} {form : Form} (known : valueForm? type = some form) :
    form.widthsFit = true := by
  have given : (valueForm? type).isSome := Option.isSome_of_eq_some known
  rcases eq_of_valueForm? given with rfl | rfl | rfl | rfl | ⟨struct, member, rfl⟩
  · cases known
    rfl
  · cases known
    rfl
  · cases known
    rfl
  · cases known
    rfl
  · have all : ∀ struct ∈ rowFields.map (·.1),
        ((valueForm? (.arrayType (.structType struct))).map Form.widthsFit) = some true := by
      decide
    have found := all struct member
    rw [known] at found
    exact Option.some.inj found

theorem plain_type {type : Node} (known : (valueForm? type).isSome) : type.Plain := by
  rcases eq_of_valueForm? known with rfl | rfl | rfl | rfl | ⟨struct, _, rfl⟩ <;>
    simp [Node.Plain, Node.Printable, Node.decimals, uint8, uint32, stringType]

/-- Only the decimal integers of a statement that can be read off its text decide whether it has
one. -/
theorem Legible.plain {statement : Node} (legible : Legible statement) : statement.Plain := by
  cases legible with
  | comment => simp [Node.Plain, Node.Printable, Node.decimals]
  | @assign type value name form isStatic isConstant _ known fits =>
    have types := plain_type (Option.isSome_of_eq_some known)
    have values := fits.plain (widthsFit_of_valueForm? known)
    unfold Node.Plain at types values ⊢
    rw [Node.Printable, Node.Printable, Node.Printable, and_true, types, values, Node.decimals,
      Node.decimals, Node.decimals, List.append_nil, List.forall_mem_append]

end CodecTables.Source
