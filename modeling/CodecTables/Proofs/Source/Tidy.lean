import CodecTables.Proofs.Source.Layout
import CodecTables.Proofs.Source.Legible
import CodecTables.Proofs.Source.StringLiteral

/-!
# Tidy texts

No line of a source ends in a blank, and nothing moves in a line but its margin. What a value is
printed as may follow a blank and be followed by a line break (`Neat`): numbers and names have no
blanks, the quotes of a text keep what is in it inside, and in a literal only the comma before
another element is followed by a blank. So every declaration is tidy (`Legible.spells`), and so are
the lines of a source, whatever blanks and tabs their margins are made of (`tidyLine_of_render`).
-/

namespace CodecTables.Source

open Print

/-! ### Characters -/

/-- The character breaks a line, or moves in it. -/
def isBreak (c : Char) : Bool := ['\n', '\r', '\t'].contains c

/-- The character moves in a line. -/
def isMove (c : Char) : Bool := ['\r', '\t'].contains c

/-- A letter or a digit is no blank. -/
theorem isBlank_of_isAlphanum {c : Char} (alphanum : c.isAlphanum = true) :
    Text.isBlank c = false := by
  have letters : (65 ≤ c.toNat ∧ c.toNat ≤ 90 ∨ 97 ≤ c.toNat ∧ c.toNat ≤ 122) ∨
      48 ≤ c.toNat ∧ c.toNat ≤ 57 := by
    simpa [Char.isAlphanum, Char.isAlpha, Char.isUpper, Char.isLower, Char.isDigit,
      UInt32.le_iff_toNat_le] using alphanum
  refine Bool.eq_false_iff.mpr fun blank => ?_
  obtain ⟨range, member, low, high⟩ := Text.RangeTable.contains_iff.mp blank
  simp only [Text.blanks, List.mem_cons, List.not_mem_nil, or_false] at member
  rcases member with rfl | rfl | rfl | rfl | rfl | rfl | rfl | rfl | rfl | rfl <;>
    dsimp only at low high <;> omega

/-- What is in numbers and names is no blank. -/
theorem isBlank_of_isInk {c : Char} (ink : isInk c = true) : Text.isBlank c = false := by
  rcases Bool.or_eq_true_iff.mp ink with alphanum | mark
  · exact isBlank_of_isAlphanum alphanum
  · have marks : ['-', '(', ')', '&', '[', ']', ':', '_'].any Text.isBlank = false := by decide
    exact eq_false_of_any marks c (List.contains_iff_mem.mp mark)

/-- What is in numbers and names does not break a line. -/
theorem isBreak_of_isInk {c : Char} (ink : isInk c = true) : isBreak c = false :=
  contains_eq_false_of_any (by decide) ink

/-- What is no control character does not break a line. -/
theorem isBreak_of_isControl {c : Char} (printed : isControl c = false) : isBreak c = false := by
  have controls : ['\n', '\r', '\t'].any (fun c => !isControl c) = false := by decide
  exact contains_eq_false_of_any controls (by rw [printed]; rfl)

/-! ### Texts -/

/-- If the second character breaks a line, the first one is no blank of this line. -/
def Follows (c d : Char) : Prop := d = '\n' → c = '\n' ∨ Text.isBlank c = false

instance : DecidableRel Follows := fun c d =>
  inferInstanceAs (Decidable (d = '\n' → c = '\n' ∨ Text.isBlank c = false))

/-- No line that is broken in the text ends in a blank, and nothing moves in a line. -/
structure Tidy (text : List Char) : Prop where
  follows : text.IsChain Follows
  still : ∀ c ∈ text, isMove c = false

instance (text : List Char) : Decidable (Tidy text) :=
  decidable_of_iff (text.IsChain Follows ∧ text.any isMove = false)
    ⟨fun ⟨follows, still⟩ => ⟨follows, eq_false_of_any still⟩,
      fun tidy => ⟨tidy.follows, by simpa using tidy.still⟩⟩

theorem Tidy.append {x y : List Char} (tidy : Tidy x) (tidy' : Tidy y)
    (meet : ∀ c ∈ x.getLast?, ∀ d ∈ y.head?, Follows c d) : Tidy (x ++ y) where
  follows := List.isChain_append.mpr ⟨tidy.follows, tidy'.follows, meet⟩
  still := List.forall_mem_append.mpr ⟨tidy.still, tidy'.still⟩

theorem isMove_of_isBreak {c : Char} (other : isBreak c = false) : isMove c = false := by
  unfold isBreak at other
  rw [List.contains_cons, Bool.or_eq_false_iff] at other
  exact other.2

/-- Any part of a line is tidy. -/
theorem tidy_of_line {text : List Char} (line : ∀ c ∈ text, isBreak c = false) : Tidy text where
  follows := by
    refine (List.pairwise_of_forall_mem_list fun c _ d member newline => ?_).isChain
    rw [newline] at member
    exact absurd (line '\n' member) (by decide)
  still c member := isMove_of_isBreak (line c member)

/-- The text is tidy, does not begin with a line break and does not end in a blank. -/
structure Neat (text : List Char) : Prop where
  tidy : Tidy text
  present : text ≠ []
  first : ∀ c ∈ text.head?, c ≠ '\n'
  last : ∀ c ∈ text.getLast?, Text.isBlank c = false

instance (text : List Char) : Decidable (Neat text) :=
  decidable_of_iff (Tidy text ∧ text ≠ [] ∧ text.head?.all (· != '\n') = true ∧
      text.getLast?.any Text.isBlank = false)
    ⟨fun ⟨tidy, present, first, last⟩ =>
        ⟨tidy, present, by simpa [Option.all_eq_true] using first,
          by simpa [Option.any_eq_false] using last⟩,
      fun neat => ⟨neat.tidy, neat.present, by simpa [Option.all_eq_true] using neat.first,
        by simpa [Option.any_eq_false] using neat.last⟩⟩

/-- Any part of a line that does not end in a blank is neat. -/
theorem neat_of_line {text : List Char} (line : ∀ c ∈ text, isBreak c = false)
    (present : text ≠ []) (last : ∀ c ∈ text.getLast?, Text.isBlank c = false) : Neat text where
  tidy := tidy_of_line line
  present := present
  first c begun := by
    rintro rfl
    exact absurd (line '\n' (List.mem_of_mem_head? begun)) (by decide)
  last := last

/-- A number or a name is neat. -/
theorem neat_of_ink {text : List Char} (present : text ≠ []) (ink : ∀ c ∈ text, isInk c = true) :
    Neat text :=
  neat_of_line (fun c member => isBreak_of_isInk (ink c member)) present
    fun c last => isBlank_of_isInk (ink c (List.mem_of_mem_getLast? last))

namespace Neat

variable {x y gap : List Char}

/-- Behind any part of a line, a neat text stays neat. -/
theorem behind (line : ∀ c ∈ gap, isBreak c = false) (neat : Neat y) : Neat (gap ++ y) where
  tidy := (tidy_of_line line).append neat.tidy fun _ _ d begun newline =>
    absurd newline (neat.first d begun)
  present := List.append_ne_nil_of_right_ne_nil gap neat.present
  first c begun := by
    rw [List.head?_append] at begun
    rcases Option.or_eq_some_iff.mp begun with front | ⟨_, begun⟩
    · rintro rfl
      exact absurd (line '\n' (List.mem_of_mem_head? front)) (by decide)
    · exact neat.first c begun
  last := by
    rw [List.getLast?_append_of_ne_nil gap neat.present]
    exact neat.last

/-- Two neat texts are apart by any tidy text, since the first one does not end in a blank and the
second one does not break a line. -/
theorem join (neat : Neat x) (tidy : Tidy gap) (neat' : Neat y) : Neat (x ++ (gap ++ y)) where
  tidy := neat.tidy.append
    (tidy.append neat'.tidy fun _ _ d begun newline => absurd newline (neat'.first d begun))
    fun c ended _ _ _ => .inr (neat.last c ended)
  present := List.append_ne_nil_of_left_ne_nil neat.present _
  first := by
    rw [List.head?_append_of_ne_nil x neat.present]
    exact neat.first
  last := by
    rw [← List.append_assoc, List.getLast?_append_of_ne_nil (x ++ gap) neat'.present]
    exact neat'.last

end Neat

/-- No line of the text ends in a blank, also the last one, and nothing moves in a line. -/
structure Ended (text : List Char) : Prop where
  tidy : Tidy text
  last : ∀ c ∈ text.getLast?, Follows c '\n'

namespace Ended

variable {x y : List Char}

theorem nil : Ended [] := ⟨tidy_of_line nofun, nofun⟩

theorem append (ended : Ended x) (ended' : Ended y) : Ended (x ++ y) where
  tidy := ended.tidy.append ended'.tidy fun c last _ _ _ => ended.last c last rfl
  last c last := by
    rw [List.getLast?_append] at last
    rcases Option.or_eq_some_iff.mp last with last | ⟨_, last⟩
    · exact ended'.last c last
    · exact ended.last c last

/-- Line breaks may follow a neat text. -/
theorem of_neat (neat : Neat x) : Ended (x ++ ['\n', '\n']) where
  tidy := neat.tidy.append (by decide) fun c last _ _ _ => .inr (neat.last c last)
  last c last := by
    rw [List.getLast?_append_of_ne_nil x (by decide)] at last
    cases last
    exact fun _ => .inl rfl

end Ended

/-- Behind an empty first line there is a line break, or nothing. -/
theorem newline_of_splitOn_nil {text : List Char} {rest : List (List Char)}
    (cut : text.splitOn '\n' = [] :: rest) : '\n' ∈ (text ++ ['\n']).head? := by
  cases text with
  | nil => rfl
  | cons d text =>
    rw [List.splitOn_cons_eq_if_modifyHead] at cut
    split at cut
    case isTrue newline => exact congrArg some (beq_iff_eq.mp newline)
    case isFalse =>
      obtain ⟨first, more, same⟩ := List.exists_cons_of_ne_nil (List.splitOn_ne_nil '\n' text)
      rw [same] at cut
      cases cut

/-- A line that is broken, or is the last one, does not end in a blank. -/
theorem isBlank_of_mem_splitOn {text line : List Char}
    (follows : (text ++ ['\n']).IsChain Follows) (member : line ∈ text.splitOn '\n') {c : Char}
    (last : c ∈ line.getLast?) : Text.isBlank c = false := by
  induction text generalizing line with
  | nil => simp_all
  | cons d text ih =>
    obtain ⟨first, rest, cut⟩ := List.exists_cons_of_ne_nil (List.splitOn_ne_nil '\n' text)
    rw [List.splitOn_cons_eq_if_modifyHead, cut] at member
    rw [cut] at ih
    obtain ⟨next, later⟩ := List.isChain_cons.mp follows
    split at member
    case isTrue =>
      obtain rfl | member := List.mem_cons.mp member
      · cases last
      · exact ih later member last
    case isFalse other =>
      obtain rfl | member := List.mem_cons.mp member
      · cases first with
        | nil =>
          obtain rfl := Option.some.inj last
          have broken := next '\n' (newline_of_splitOn_nil cut) rfl
          exact broken.resolve_left (by simpa using other)
        | cons e first =>
          rw [List.getLast?_cons_cons] at last
          exact ih later List.mem_cons_self last
      · exact ih later (List.mem_cons_of_mem first member) last

/-- No line of such a text ends in a blank. -/
theorem Ended.isBlank {text line : List Char} (ended : Ended text)
    (member : line ∈ text.splitOn '\n') : ∀ c ∈ line.getLast?, Text.isBlank c = false := by
  have follows : (text ++ ['\n']).IsChain Follows := by
    refine List.isChain_append.mpr ⟨ended.tidy.follows, .singleton _, fun c last d begun => ?_⟩
    cases begun
    exact ended.last c last
  exact fun c => isBlank_of_mem_splitOn follows member

/-! ### Texts of steps -/

/-- Without a unit of indentation, what the step writes is as stated. -/
def Spells (step : Print Unit) (p : List Char → Prop) : Prop :=
  ∀ ⦃w v : Writer⦄, w.unit = "" → Prints step w v →
    v.unit = "" ∧ ∃ text, p text ∧ v.chars = w.chars ++ text

namespace Spells

variable {step next : Print Unit} {p q r : List Char → Prop}

/-- What is spelled by two steps is spelled by the first and then by the second. -/
theorem bind (first : Spells step p) (second : Spells next q)
    (joined : ∀ x y, p x → q y → r (x ++ y)) : Spells (step >>= fun _ => next) r := by
  intro w v bare run
  obtain ⟨u, here, there⟩ := prints_bind.mp run
  obtain ⟨bare, x, holds, chars⟩ := first bare here
  obtain ⟨bare, y, holds', chars'⟩ := second bare there
  exact ⟨bare, x ++ y, joined x y holds holds', by rw [chars', chars, List.append_assoc]⟩

/-- What is spelled does not depend on the level. -/
theorem indented (spells : Spells step p) : Spells (indented step) p := by
  intro w v bare run
  obtain ⟨u, inner, rfl⟩ := prints_indented.mp run
  obtain ⟨bare, text, holds, chars⟩ := spells (w := w.indent) bare inner
  exact ⟨bare, text, holds, chars⟩

end Spells

/-- A step that writes a text spells it. -/
theorem spells_of_write {step : Print Unit} {s : String} {p : List Char → Prop}
    (writes : ∀ ⦃w v : Writer⦄, Prints step w v → v = w.write s) (holds : p s.toList) :
    Spells step p := by
  intro w v bare run
  rw [writes run]
  exact ⟨(w.unit_write s).trans bare, s.toList, holds, Writer.chars_write_of_bare bare s⟩

/-- To write a text spells it. -/
theorem spells_write {s : String} {p : List Char → Prop} (holds : p s.toList) :
    Spells (write s) p :=
  spells_of_write (fun _ _ run => prints_write.mp run) holds

theorem spells_writeLine {s : String} {p : List Char → Prop} (holds : p (s ++ "\n").toList) :
    Spells (writeLine s) p :=
  spells_write holds

namespace Atom

variable {node : Node} {text : String}

/-- What is printed as a neat text is spelled neatly. -/
theorem spells (atom : Atom node text) (neat : Neat text.toList) : Spells node.print Neat :=
  spells_of_write (fun _ _ run => atom.prints run) neat

theorem spells_of_ink (atom : Atom node text) (ink : ∀ c ∈ text.toList, isInk c = true) :
    Spells node.print Neat :=
  atom.spells (neat_of_ink atom.inked ink)

end Atom

theorem IsWord.spells {name : String} (word : IsWord name) :
    Spells (Node.identifier name).print Neat :=
  word.atom.spells_of_ink fun _ => word.isInk

/-- A number in hexadecimal is spelled neatly. -/
theorem spells_hexInteger (value width : Int) : Spells (Node.hexInteger value width).print Neat :=
  (atom_hexInteger value width).spells_of_ink fun _ => isInk_of_mem_hexSpelling

/-- A text ends in its quote, and nothing in it breaks a line. -/
theorem spells_string (content : String) : Spells (Node.string content).print Neat := by
  have chars : ("\"" ++ escape content ++ "\"").toList =
      '"' :: (content.toList.flatMap escapeChar ++ ['"']) := by simp [escape]
  refine spells_write ?_
  rw [chars]
  refine neat_of_line (fun c member => ?_) (List.cons_ne_nil _ _) fun c last => ?_
  · simp only [List.mem_cons, List.mem_append, List.mem_flatMap, List.not_mem_nil, or_false]
      at member
    rcases member with rfl | ⟨d, _, escaped⟩ | rfl
    · rfl
    · exact isBreak_of_isControl (isControl_of_mem_escapeChar escaped)
    · rfl
  · rw [← List.cons_append, List.getLast?_concat] at last
    cases last
    decide

/-! ### Literals -/

/-- Neat elements with tidy separators between them are neat. -/
theorem PrintsEach.spells {between : Nat → Print Unit} {place : Nat} {w v : Writer} {node : Node}
    {rest : List Node} (run : PrintsEach between place w (node :: rest) v)
    (gaps : ∀ place, Spells (between place) Tidy)
    (each : ∀ n ∈ node :: rest, Spells n.print Neat) (bare : w.unit = "") :
    v.unit = "" ∧ ∃ text, Neat text ∧ v.chars = w.chars ++ text := by
  induction rest generalizing place w node with
  | nil =>
    cases run with
    | last first => exact each node List.mem_cons_self bare first
  | cons next rest ih =>
    cases run with
    | cons first middle later =>
      obtain ⟨bare, x, neat, chars⟩ := each node List.mem_cons_self bare first
      obtain ⟨bare, gap, tidy, chars'⟩ := gaps place bare middle
      obtain ⟨bare, y, neat', chars''⟩ :=
        ih later (fun n member => each n (List.mem_cons_of_mem _ member)) bare
      refine ⟨bare, x ++ (gap ++ y), neat.join tidy neat', ?_⟩
      rw [chars'', chars', chars]
      simp

/-- The elements of a literal: none, or a neat text. -/
theorem spells_elements {between : Nat → Print Unit} {step : Print Unit} {nodes : List Node}
    (prints : ∀ ⦃w v : Writer⦄, Prints step w v → PrintsEach between 0 w nodes v)
    (gaps : ∀ place, Spells (between place) Tidy) (each : ∀ n ∈ nodes, Spells n.print Neat) :
    Spells step fun text => text = [] ∨ Neat text := by
  intro w v bare run
  cases nodes with
  | nil =>
    cases prints run
    exact ⟨bare, [], .inl rfl, (List.append_nil _).symm⟩
  | cons node rest =>
    obtain ⟨bare, text, neat, chars⟩ := (prints run).spells gaps each bare
    exact ⟨bare, text, .inr neat, chars⟩

/-- Elements in braces are neat, also if there are none. -/
theorem spells_braces {step : Print Unit}
    (elements : Spells step fun text => text = [] ∨ Neat text) :
    Spells (do
      writeLine "\x7b"
      indented step
      writeLine ""
      write "\x7d") Neat := by
  have opening : Neat ['\x7b'] := by decide
  have closing : Neat ['\x7d'] := by decide
  have ended : Spells (do
      writeLine ""
      write "\x7d") (· = ['\n', '\x7d']) :=
    (spells_writeLine (p := (· = ['\n'])) rfl).bind (spells_write (p := (· = ['\x7d'])) rfl)
      fun x y first last => by rw [first, last]; rfl
  refine (spells_writeLine (p := (· = ['\x7b', '\n'])) rfl).bind (elements.indented.bind ended
    (r := fun text => Neat (['\x7b', '\n'] ++ text)) fun x y inside last => ?_)
    fun x y first rest => first ▸ rest
  rw [last]
  rcases inside with rfl | neat
  · exact opening.join (show Tidy ['\n', '\n'] by decide) closing
  · have broken : Tidy ['\n'] := by decide
    exact opening.join broken (neat.join broken closing)

/-- A literal is spelled neatly if its elements are. -/
theorem spells_literal {nodes : List Node} (each : ∀ n ∈ nodes, Spells n.print Neat) :
    Spells (Node.literal nodes).print Neat := by
  have gaps : ∀ place, Spells (lineBreak place) Tidy := fun _ => spells_writeLine (by decide)
  exact spells_braces (spells_elements (fun _ _ run => printsEach_of_printLines 0 run) gaps each)

/-- In a literal of bytes, a comma is followed by a blank or by a line break. -/
theorem spells_bytesLiteral {nodes : List Node} (each : ∀ n ∈ nodes, Spells n.print Neat) :
    Spells (Node.bytesLiteral nodes).print Neat := by
  have gaps : ∀ place, Spells (rowBreak place) Tidy := by
    intro place
    unfold rowBreak
    split
    · exact spells_writeLine (by decide)
    · exact spells_write (by decide)
  exact spells_braces (spells_elements (fun _ _ run => printsEach_of_printRows run) gaps each)

/-! ### Forms -/

mutual

/-- What is printed of a value of some form is neat. -/
theorem Form.Fits.spells {form : Form} {node : Node} (fits : form.Fits wordsOnly node) :
    Spells node.print Neat := by
  cases form with
  | boolean =>
    obtain ⟨value, rfl⟩ := fits
    exact (atom_boolean value).spells (by cases value <;> decide)
  | integer =>
    obtain ⟨value, rfl⟩ := fits
    exact (atom_integer value).spells_of_ink fun _ => isInk_of_mem_decimal
  | hexadecimal width =>
    obtain ⟨value, rfl⟩ := fits
    exact spells_hexInteger value width
  | text =>
    obtain ⟨content, rfl⟩ := fits
    exact spells_string content
  | bytes =>
    obtain ⟨data, rfl⟩ := fits
    refine spells_bytesLiteral fun node member => ?_
    obtain ⟨byte, _, rfl⟩ := List.mem_map.mp member
    exact spells_hexInteger _ _
  | array element =>
    obtain ⟨name, word, rfl⟩ := fits
    exact IsWord.spells word
  | optional element =>
    rcases fits with rfl | ⟨name, word, rfl⟩
    · exact atom_nullPointer.spells (by decide)
    · exact IsWord.spells word
  | place struct =>
    obtain ⟨name, index, word, rfl⟩ := fits
    exact (atom_place word index).spells_of_ink fun _ => isInk_of_mem_placeSpelling word
  | unloaded =>
    rw [show node = .identifier unloadedName from fits]
    exact spells_write (by decide)
  | model =>
    obtain ⟨model, rfl⟩ := fits
    exact (atom_symbol model).spells (by cases model <;> decide)
  | row fields =>
    obtain ⟨nodes, rfl, each⟩ := fits
    exact spells_literal (FitEach.spells each)
  | list element =>
    obtain ⟨nodes, rfl, each⟩ := fits
    exact spells_literal fun node member => (each node member).spells

/-- Nodes that have a form are spelled neatly. -/
theorem FitEach.spells {forms : List Form} {nodes : List Node}
    (fits : FitEach wordsOnly forms nodes) : ∀ node ∈ nodes, Spells node.print Neat := by
  cases forms with
  | nil =>
    rw [show nodes = [] from fits]
    exact nofun
  | cons form forms =>
    obtain ⟨first, rest, rfl, here, later⟩ := fits
    intro node member
    rcases List.mem_cons.mp member with rfl | inside
    · exact here.spells
    · exact FitEach.spells later node inside

end

/-! ### Statements -/

theorem isBreak_of_mem_declaredText {type : Node} {name : String} {isStatic isConstant : Bool}
    (known : (valueForm? type).isSome) (word : IsWord name) {c : Char}
    (member : c ∈ (declaredText type name isStatic isConstant).toList) : isBreak c = false := by
  have types : typeNames.all (fun text => !text.toList.any isBreak) = true := by decide
  simp only [declaredText_eq, String.toList_append, List.mem_append] at member
  rcases member with ((((qualified | typed) | blank) | named) | marked) | sign
  · have qualifier : (qualifiers isStatic isConstant).toList.any isBreak = false := by
      cases isStatic <;> cases isConstant <;> decide
    exact eq_false_of_any qualifier c qualified
  · exact eq_false_of_any (by simpa using List.all_eq_true.mp types _ (typeName_mem known)) c typed
  · exact eq_false_of_any (by decide) c blank
  · exact isBreak_of_isInk (word.isInk named)
  · have marks : (declaratorMarks type).toList.any isBreak = false := by
      unfold declaratorMarks
      split <;> decide
    exact eq_false_of_any marks c marked
  · exact eq_false_of_any (by decide) c sign

/-- What is printed of a legible statement is tidy, if a comment does not end in a blank. -/
theorem Legible.spells {statement : Node} (legible : Legible statement)
    (neat : ∀ line, statement = .comment (line ++ "\n") → Neat line.toList) :
    Spells statement.print Ended := by
  intro w v bare run
  refine ⟨((run.grows statement.steady_print).unit).trans bare, ?_⟩
  cases legible with
  | @comment line single =>
    have text : Neat ("// ".toList ++ line.toList) :=
      (neat line rfl).behind (eq_false_of_any (by decide))
    refine ⟨_, .of_neat text, ?_⟩
    rw [chars_comment single run, Writer.lead_of_bare bare]
    simp
  | @assign type value name form isStatic isConstant word known fits =>
    have types : (valueForm? type).isSome := Option.isSome_of_eq_some known
    obtain ⟨u, valued, chars⟩ := prints_assign types (inked_of_fits fits) run
    have bare' : (w.write (declaredText type name isStatic isConstant)).unit = "" :=
      (w.unit_write _).trans bare
    obtain ⟨_, text, neat, chars'⟩ := fits.spells bare' valued
    have closed : Neat (text ++ ([] ++ [';'])) :=
      neat.join (by decide) (by decide)
    have whole : Neat ((declaredText type name isStatic isConstant).toList ++
        (text ++ ([] ++ [';']))) :=
      closed.behind fun c => isBreak_of_mem_declaredText types word
    refine ⟨_, .of_neat whole, ?_⟩
    rw [chars, chars', Writer.chars_write_of_bare bare]
    simp

/-- The lines of statements end so if those of each statement do. -/
theorem spells_printAll {statements : List Node}
    (each : ∀ statement ∈ statements, Spells statement.print Ended) :
    Spells (printAll statements) Ended := by
  induction statements with
  | nil =>
    intro w v bare run
    rw [prints_pure.mp run]
    exact ⟨bare, [], .nil, (List.append_nil _).symm⟩
  | cons statement rest ih =>
    exact (each statement List.mem_cons_self).bind
      (ih fun n member => each n (List.mem_cons_of_mem _ member)) fun _ _ => .append

/-! ### Lines of a source -/

/-- The line is empty or does not end in a blank, and nothing moves in it but the tabs of its
margin, which is a number of units. -/
structure TidyLine (unit : String) (line : List Char) : Prop where
  ended : ∀ c ∈ line.getLast?, Text.isBlank c = false
  carriage : '\r' ∉ line
  tabs : ∃ depth body,
    line = (String.join (List.replicate depth unit)).toList ++ body ∧ '\t' ∉ body

/-- A line is tidy with a margin of blanks and tabs. -/
theorem Line.tidyLine {unit : String} (blank : ∀ c ∈ unit.toList, c = ' ' ∨ c = '\t') {line : Line}
    (ended : ∀ c ∈ line.text.getLast?, Text.isBlank c = false)
    (still : ∀ c ∈ line.text, isMove c = false) : TidyLine unit (line.chars unit) := by
  have carriage : '\r' ∉ line.chars unit := by
    intro member
    rcases mem_of_mem_chars member with margin | inside
    · exact absurd (blank '\r' margin) (by decide)
    · exact absurd (still '\r' inside) (by decide)
  have tab : '\t' ∉ line.text := fun inside => absurd (still '\t' inside) (by decide)
  cases empty : line.text with
  | nil =>
    have none : line.chars unit = [] := by rw [chars, empty]; rfl
    rw [none]
    exact ⟨by simp, List.not_mem_nil, 0, [], rfl, List.not_mem_nil⟩
  | cons c rest =>
    have text : line.chars unit =
        (String.join (List.replicate line.depth unit)).toList ++ line.text := by
      rw [chars, if_neg (by simp [empty])]
    refine ⟨?_, carriage, line.depth, line.text, text, tab⟩
    rw [text, List.getLast?_append_of_ne_nil _ (by simp [empty])]
    exact ended

/-- A source of tidy statements has tidy lines, whatever blanks and tabs a unit is made of. -/
theorem tidyLine_of_render {statements : List Node}
    (each : ∀ statement ∈ statements, Spells statement.print Ended) {unit text : String}
    (blank : ∀ c ∈ unit.toList, c = ' ' ∨ c = '\t')
    (rendered : (Node.sourceCode statements).render unit = .ok text) :
    ∀ line ∈ text.toList.splitOn '\n', TidyLine unit line := by
  obtain ⟨lines, result, lays, present, ruled⟩ := (Node.sourceCode statements).exists_laysOut
  cases result with
  | error e => cases rendered.symm.trans (lays.render unit)
  | ok =>
    -- Without a unit, the text is what the lines hold, so they are its lines.
    obtain ⟨v, run, chars⟩ := lays.start ""
    obtain ⟨_, bare, ended, chars'⟩ := spells_printAll each rfl run
    have held : bare.splitOn '\n' = lines.map Line.text := by
      have same : bare = ['\n'].intercalate (lines.map Line.text) := by
        rw [← Line.chars_bare]
        exact chars'.symm.trans chars
      rw [same, List.splitOn_intercalate '\n' (by simpa using ruled) (by simpa using present)]
    have spelled : text.toList.splitOn '\n' = lines.map (Line.chars unit) := by
      rw [Except.ok.inj (rendered.symm.trans (lays.render unit)), String.toList_ofList]
      refine List.splitOn_intercalate '\n' (fun _ member inside => ?_) (by simpa using present)
      obtain ⟨line, listed, rfl⟩ := List.mem_map.mp member
      rcases Line.mem_of_mem_chars inside with margin | held
      · exact absurd (blank '\n' margin) (by decide)
      · exact ruled line listed held
    rw [spelled]
    intro _ member
    obtain ⟨line, listed, rfl⟩ := List.mem_map.mp member
    have inside : line.text ∈ bare.splitOn '\n' := held ▸ List.mem_map_of_mem listed
    exact Line.tidyLine blank (ended.isBlank inside) fun c member =>
      ended.tidy.still c (mem_of_mem_splitOn inside member).1

end CodecTables.Source
