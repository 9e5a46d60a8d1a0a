import CodecTables.Proofs.Source.Escape
import CodecTables.Proofs.Source.Form
import CodecTables.Proofs.Source.Printing
import CodecTables.Proofs.Text.Numeral

/-!
# Texts of values

The text of a value tells the value, if its form is known: two values of one form that go on alike
after the same text, up to a character that ends them, are the same (`Form.Fits.told`). A number or
a name is ended by a comma, a semicolon or a line break, which it cannot hold. A text is ended by
its quote. A literal is ended by its brace, since its elements are, and each of them is told.
-/

namespace CodecTables.Source

open Print

/-! ### Ends of texts -/

/-- Two texts without a mark are the same if they go on alike up to a mark. -/
theorem eq_of_append_eq (mark : Char → Bool) {cs ds x y : List Char} {c d : Char}
    (inside : ∀ e ∈ cs, mark e = false) (inside' : ∀ e ∈ ds, mark e = false)
    (ends : mark c = true) (ends' : mark d = true) (same : cs ++ c :: x = ds ++ d :: y) :
    cs = ds := by
  have cut (es : List Char) (e : Char) (z : List Char) (inside : ∀ e ∈ es, mark e = false)
      (ends : mark e = true) : (es ++ e :: z).takeWhile (fun e => !mark e) = es := by
    rw [List.takeWhile_append_of_pos (by simpa using inside), List.takeWhile_cons_of_neg (by
      simp [ends]), List.append_nil]
  rw [← cut cs c x inside ends, same, cut ds d y inside' ends']

/-- Two texts without a character are the same if they go on alike from this character on. -/
theorem eq_of_append_cons_eq {cs ds x y : List Char} {d : Char} (absent : d ∉ cs)
    (absent' : d ∉ ds) (same : cs ++ d :: x = ds ++ d :: y) : cs = ds := by
  have other (es : List Char) (absent : d ∉ es) : ∀ e ∈ es, (e == d) = false :=
    fun e member => beq_eq_false_iff_ne.mpr fun equal => absent (equal ▸ member)
  exact eq_of_append_eq (· == d) (other cs absent) (other ds absent') (beq_self_eq_true d)
    (beq_self_eq_true d) same

/-- No character of a text is marked if none is found. -/
theorem eq_false_of_any {mark : Char → Bool} {cs : List Char} (none : cs.any mark = false) :
    ∀ c ∈ cs, mark c = false :=
  fun c member => Bool.eq_false_iff.mpr (List.any_eq_false.mp none c member)

/-- A character of some kind is none of several characters that are not. -/
theorem contains_eq_false_of_any {marks : List Char} {kind : Char → Bool} {c : Char}
    (others : marks.any kind = false) (own : kind c = true) : marks.contains c = false := by
  cases inside : marks.contains c with
  | false => rfl
  | true =>
    have other := eq_false_of_any others c (List.contains_iff_mem.mp inside)
    rw [own] at other
    cases other

/-- The character ends a value, or an element of a literal. -/
def isStop (c : Char) : Bool := [',', ';', '\n'].contains c

/-- The text begins with a character that ends a value. -/
def Stops (rest : List Char) : Prop := ∃ c tail, rest = c :: tail ∧ isStop c = true

/-- Letters, digits and the marks in numbers and names. -/
def isInk (c : Char) : Bool :=
  c.isAlphanum || ['-', '(', ')', '&', '[', ']', ':', '_'].contains c

theorem isInk_of_isAlphanum {c : Char} (alphanum : c.isAlphanum = true) : isInk c = true := by
  rw [isInk, alphanum, Bool.true_or]

theorem isInk_of_all {cs : List Char} (all : cs.all isInk = true) : ∀ c ∈ cs, isInk c = true :=
  List.all_eq_true.mp all

/-- What is in a number or a name does not end it. -/
theorem isStop_of_isInk {c : Char} (ink : isInk c = true) : isStop c = false :=
  contains_eq_false_of_any (by decide) ink

/-! ### Nodes that are told -/

/-- The nodes are the same if what is printed of them after the same text goes on alike up to a
character that ends them. -/
def Told (a b : Node) : Prop :=
  ∀ ⦃w v v' : Writer⦄ ⦃x y : List Char⦄, '\n' ∉ w.unit.toList → Prints a.print w v →
    Prints b.print w v' → Stops x → Stops y → v.chars ++ x = v'.chars ++ y → a = b

/-- The step leads on in a line: what it writes does not begin with a line break or end with
one. -/
def Inks (w v : Writer) : Prop :=
  v.lead = [] ∧ ∃ c rest, c ≠ '\n' ∧ v.chars = w.chars ++ (w.lead ++ c :: rest)

/-- What is printed of the node does not begin with a line break or end with one. -/
def Inked (a : Node) : Prop := ∀ ⦃w v : Writer⦄, Prints a.print w v → Inks w v

/-- The node is printed as a text without a character that ends it. -/
structure Atom (node : Node) (text : String) : Prop where
  prints : ∀ ⦃w v : Writer⦄, Prints node.print w v → v = w.write text
  inked : text.toList ≠ []
  solid : ∀ c ∈ text.toList, isStop c = false

namespace Atom

variable {a b : Node} {s t : String}

theorem line (atom : Atom a s) : '\n' ∉ s.toList :=
  fun member => Bool.noConfusion (atom.solid _ member)

/-- An atom is printed behind the margin. -/
theorem chars (atom : Atom a s) {w v : Writer} (run : Prints a.print w v) :
    v.chars = w.chars ++ (w.lead ++ s.toList) := by
  rw [atom.prints run, Writer.chars_write w atom.line atom.inked]

/-- Atoms that differ in their texts are told apart. -/
theorem told (atom : Atom a s) (atom' : Atom b t) (inj : s = t → a = b) : Told a b := by
  rintro w v v' _ _ _ run run' ⟨c, x, rfl, stop⟩ ⟨d, y, rfl, stop'⟩ same
  rw [atom.chars run, atom'.chars run'] at same
  simp only [List.append_assoc, List.append_cancel_left_eq] at same
  exact inj (String.toList_inj.mp (eq_of_append_eq isStop atom.solid atom'.solid stop stop' same))

/-- An atom leads on in a line. -/
theorem toInked (atom : Atom a s) : Inked a := by
  intro w v run
  cases same : s.toList with
  | nil => exact absurd same atom.inked
  | cons c rest =>
    refine ⟨?_, c, rest, ?_, by rw [atom.chars run, same]⟩
    · rw [atom.prints run]
      exact Writer.lead_write w atom.line atom.inked
    · rintro rfl
      exact atom.line (same ▸ List.mem_cons_self)

end Atom

/-! ### Numbers and names -/

/-- A truth value is an atom. -/
theorem atom_boolean (value : Bool) :
    Atom (.boolean value) (if value then "true" else "false") where
  prints _ _ run := prints_write.mp run
  inked := by cases value <;> decide
  solid := eq_false_of_any (by cases value <;> decide)

theorem isInk_of_mem_decimal {value : Int} {c : Char}
    (member : c ∈ (Text.decimal value).toList) : isInk c = true := by
  rw [Text.decimal, String.toList_ofList] at member
  rcases Text.isAlphanum_of_mem_padded Text.isAlphanum_of_mem_decimalDigits member with rfl | letter
  · rfl
  · exact isInk_of_isAlphanum letter

theorem atom_integer (value : Int) : Atom (.integer value) (Text.decimal value) where
  prints w v run := by simpa using eq_of_prints_writeInteger run
  inked := by simp [Text.decimal, Text.padded, Text.decimalDigits]
  solid _ member := isStop_of_isInk (isInk_of_mem_decimal member)

/-- A number whose width fits is written with its digits, padded to the width. -/
theorem hexText_of_lengthOf {value width : Int} {length : Nat}
    (known : Text.lengthOf .format (max (Int.fdiv width 4) 1) = .ok length) :
    hexText value width =
      .ok ("0x" ++ String.ofList (Text.padded Text.hexDigits length value)) := by
  rw [hexText, known]
  rfl

/-- The text of a hexadecimal number, if there is one. -/
def hexSpelling (value width : Int) : String :=
  "0x" ++ String.ofList (Text.padded Text.hexDigits (max (Int.fdiv width 4) 1).toNat value)

/-- A number that has a text in hexadecimal is spelled so. -/
theorem eq_hexSpelling {value width : Int} {text : String}
    (written : hexText value width = .ok text) : text = hexSpelling value width := by
  cases known : Text.lengthOf .format (max (Int.fdiv width 4) 1) with
  | error e =>
    rw [hexText, known] at written
    cases written
  | ok length =>
    rw [hexText_of_lengthOf known] at written
    obtain ⟨_, _, rfl⟩ := Text.lengthOf_eq_ok_iff.mp known
    exact (Except.ok.inj written).symm

theorem isInk_of_mem_hexSpelling {value width : Int} {c : Char}
    (member : c ∈ (hexSpelling value width).toList) : isInk c = true := by
  simp only [hexSpelling, String.toList_append, String.toList_ofList] at member
  rcases List.mem_append.mp member with mark | digit
  · exact isInk_of_all (by decide) c mark
  · rcases Text.isAlphanum_of_mem_padded Text.isAlphanum_of_mem_hexDigits digit with rfl | letter
    · rfl
    · exact isInk_of_isAlphanum letter

/-- A number in hexadecimal is an atom. -/
theorem atom_hexInteger (value width : Int) :
    Atom (.hexInteger value width) (hexSpelling value width) where
  prints w v run := by
    obtain ⟨text, written, rfl⟩ := eq_of_prints_writeHex run
    rw [eq_hexSpelling written]
  inked := by simp [hexSpelling]
  solid _ member := isStop_of_isInk (isInk_of_mem_hexSpelling member)

/-- Numbers of one width differ in their spellings. -/
theorem hexSpelling_inj {value value' width : Int}
    (same : hexSpelling value width = hexSpelling value' width) : value = value' := by
  have digits := congrArg String.toList same
  simp only [hexSpelling, String.toList_append, String.toList_ofList] at digits
  exact Text.padded_hexDigits_inj (List.append_cancel_left digits)

/-- The text may name what a source declares: it is of letters, digits and parentheses, and is not
the word for a null pointer. -/
structure IsWord (name : String) : Prop where
  present : name.toList ≠ []
  other : name ≠ "nullptr"
  letters : ∀ c ∈ name.toList, c.isAlphanum = true ∨ c = '(' ∨ c = ')'

instance (name : String) : Decidable (IsWord name) :=
  decidable_of_iff (name.toList ≠ [] ∧ name ≠ "nullptr" ∧
      name.toList.all (fun c => c.isAlphanum || c == '(' || c == ')') = true)
    ⟨fun ⟨present, other, letters⟩ => ⟨present, other, by simpa [or_assoc] using letters⟩,
      fun word => ⟨word.present, word.other, by simpa [or_assoc] using word.letters⟩⟩

/-- The characters of a word can be in a name. -/
theorem IsWord.isInk {name : String} (word : IsWord name) {c : Char} (member : c ∈ name.toList) :
    isInk c = true := by
  rcases word.letters c member with letter | rfl | rfl
  · exact isInk_of_isAlphanum letter
  · rfl
  · rfl

/-- A name without a character that ends it is an atom. -/
theorem atom_identifier {name : String} (present : name.toList ≠ [])
    (solid : ∀ c ∈ name.toList, isStop c = false) : Atom (.identifier name) name :=
  ⟨fun _ _ run => prints_write.mp run, present, solid⟩

theorem IsWord.atom {name : String} (word : IsWord name) : Atom (.identifier name) name :=
  atom_identifier word.present fun _ member => isStop_of_isInk (word.isInk member)

theorem atom_nullPointer : Atom .nullPointer "nullptr" :=
  ⟨fun _ _ run => prints_write.mp run, by decide, eq_false_of_any (by decide)⟩

/-- The symbol of a computer model is an atom. -/
theorem atom_symbol (model : Resource.ComputerModel) :
    Atom (.identifier model.symbol) model.symbol := by
  cases model <;> exact atom_identifier (by decide) (eq_false_of_any (by decide))

/-- The text of the address of an element of an array. -/
def placeSpelling (name : String) (index : Int) : String :=
  "&" ++ name ++ "[" ++ Text.decimal index ++ "]"

theorem isInk_of_mem_placeSpelling {name : String} (word : IsWord name) {index : Int} {c : Char}
    (member : c ∈ (placeSpelling name index).toList) : isInk c = true := by
  simp only [placeSpelling, String.toList_append, List.mem_append] at member
  rcases member with (((mark | name) | mark) | number) | mark
  · exact isInk_of_all (by decide) c mark
  · exact word.isInk name
  · exact isInk_of_all (by decide) c mark
  · exact isInk_of_mem_decimal number
  · exact isInk_of_all (by decide) c mark

/-- A place in an array is an atom. -/
theorem atom_place {name : String} (word : IsWord name) (index : Int) :
    Atom (.lookup (.addressOf (.identifier name)) (.integer index)) (placeSpelling name index) where
  prints w v run := by
    obtain ⟨_, array, run⟩ := prints_bind.mp run
    obtain ⟨_, mark, named⟩ := prints_bind.mp array
    obtain ⟨_, opened, run⟩ := prints_bind.mp run
    obtain ⟨_, number, closed⟩ := prints_bind.mp run
    rw [prints_write.mp closed, eq_of_prints_writeInteger number, prints_write.mp opened,
      prints_write.mp named, prints_write.mp mark, placeSpelling]
    simp [Writer.write_append]
  inked := by simp [placeSpelling]
  solid _ member := isStop_of_isInk (isInk_of_mem_placeSpelling word member)

/-- Places differ in the array or in the index. -/
theorem placeSpelling_inj {name name' : String} (word : IsWord name) (word' : IsWord name')
    {index index' : Int} (same : placeSpelling name index = placeSpelling name' index') :
    name = name' ∧ index = index' := by
  have bracket {text : String} (word : IsWord text) : '[' ∉ text.toList := by
    intro member
    rcases word.letters '[' member with letter | same | same
    · exact absurd letter (by decide)
    · exact absurd same (by decide)
    · exact absurd same (by decide)
  have chars := congrArg String.toList same
  simp only [placeSpelling, String.toList_append, List.append_assoc] at chars
  have rest := List.append_cancel_left chars
  have names := String.toList_inj.mp (eq_of_append_cons_eq (bracket word) (bracket word') rest)
  subst names
  have numbers := List.append_cancel_right (List.append_cancel_left (List.append_cancel_left rest))
  exact ⟨rfl, Text.decimal_inj.mp (String.toList_inj.mp numbers)⟩

/-! ### Texts -/

/-- A text is printed between quotes, with its characters escaped. -/
theorem inks_of_prints_string {content : String} {w v : Writer}
    (run : Prints (Node.string content).print w v) :
    v.lead = [] ∧
      v.chars = w.chars ++ (w.lead ++ '"' :: (content.toList.flatMap escapeChar ++ ['"'])) := by
  have line : '\n' ∉ ("\"" ++ escape content ++ "\"").toList := by
    simp [newline_notMem_escape]
  rw [prints_write.mp run, Writer.chars_write w line (by simp), Writer.lead_write w line (by simp)]
  simp [escape]

/-- A text is ended by its quote. -/
theorem told_string (content content' : String) : Told (.string content) (.string content') := by
  intro w v v' x y _ run run' _ _ same
  rw [(inks_of_prints_string run).2, (inks_of_prints_string run').2] at same
  simp only [List.append_assoc, List.append_cancel_left_eq, List.cons_append, List.nil_append,
    List.cons.injEq, true_and] at same
  rw [String.toList_inj.mp (escape_append_inj same)]

/-- A text leads on in a line. -/
theorem inked_string (content : String) : Inked (.string content) :=
  fun _ _ run => ⟨(inks_of_prints_string run).1, _, _, by decide, (inks_of_prints_string run).2⟩

/-! ### Literals -/

/-- A step prints in one way. -/
theorem Prints.unique {step : Print Unit} {w v v' : Writer} (run : Prints step w v)
    (run' : Prints step w v') : v = v' := by
  have first : outcome step w = (.ok (), v) := run
  exact congrArg Prod.snd (first.symm.trans run')

theorem newline_notMem_lead {w : Writer} (unit : '\n' ∉ w.unit.toList) : '\n' ∉ w.lead := by
  unfold Writer.lead
  split
  · exact fun member => unit (Writer.mem_of_mem_margin member)
  · exact List.not_mem_nil

/-- What begins a line is not a line break. -/
theorem lead_append_ne {w : Writer} (unit : '\n' ∉ w.unit.toList) {c : Char} (other : c ≠ '\n')
    (rest x : List Char) : w.lead ++ c :: rest ≠ '\n' :: x := by
  intro same
  have none := newline_notMem_lead unit
  cases lead : w.lead with
  | nil =>
    rw [lead] at same
    exact other (List.cons.inj same).1
  | cons d tail =>
    rw [lead] at same none
    exact none ((List.cons.inj same).1 ▸ List.mem_cons_self)

section Elements

variable {between : Nat → Print Unit} (steady : ∀ place, Steady (between place))
  (comma : ∀ place ⦃u u' : Writer⦄, u.lead = [] → Prints (between place) u u' →
    ∃ rest, u'.chars = u.chars ++ ',' :: rest)

include steady

/-- To print nodes with what is between them only adds to a writer. -/
theorem PrintsEach.grows {place : Nat} {w v : Writer} {nodes : List Node}
    (run : PrintsEach between place w nodes v) : w.Grows v := by
  induction run with
  | nil place w => exact .refl w
  | last first => exact first.grows (Node.steady_print _)
  | cons first next _ ih =>
    exact ((first.grows (Node.steady_print _)).trans (next.grows (steady _))).trans ih

include comma

/-- After the first element there is a comma if there are more, and a line break if there are
none. -/
theorem PrintsEach.split {place : Nat} {w v : Writer} {node : Node} {rest : List Node}
    (run : PrintsEach between place w (node :: rest) v) (inked : Inked node) (x : List Char) :
    ∃ u z, Prints node.print w u ∧
      v.chars ++ '\n' :: x = u.chars ++ (if rest.isEmpty then '\n' else ',') :: z := by
  cases run with
  | last first => exact ⟨v, x, first, rfl⟩
  | @cons _ _ u u' _ _ next rest first middle later =>
    obtain ⟨tail, same⟩ := comma place (inked first).1 middle
    obtain ⟨more, grown⟩ := (later.grows steady).chars
    refine ⟨u, tail ++ (more ++ '\n' :: x), first, ?_⟩
    rw [← grown, same]
    simp

omit steady comma in
/-- What comes after the first of several elements. -/
theorem PrintsEach.later {place : Nat} {w u v : Writer} {node next : Node} {rest : List Node}
    (run : PrintsEach between place w (node :: next :: rest) v) (first : Prints node.print w u) :
    ∃ u', Prints (between place) u u' ∧ PrintsEach between (place + 1) u' (next :: rest) v := by
  cases run with
  | cons here middle later =>
    rw [Prints.unique here first] at middle
    exact ⟨_, middle, later⟩

/-- Nodes at the same places of two lists are told. -/
def ToldEach (as bs : List Node) : Prop :=
  ∀ (i : Nat) (a b : Node), as[i]? = some a → bs[i]? = some b → Told a b

/-- Elements are told one by one, and so is their number. -/
theorem PrintsEach.eq {as bs : List Node} {place : Nat} {w v v' : Writer} {x y : List Char}
    (unit : '\n' ∉ w.unit.toList) (told : ToldEach as bs)
    (inked : ∀ node ∈ as, Inked node) (inked' : ∀ node ∈ bs, Inked node)
    (run : PrintsEach between place w as v) (run' : PrintsEach between place w bs v')
    (same : v.chars ++ '\n' :: x = v'.chars ++ '\n' :: y) : as = bs := by
  induction as generalizing bs place w with
  | nil =>
    cases bs with
    | nil => rfl
    | cons b bs =>
      cases run
      have first := inked' b List.mem_cons_self
      obtain ⟨u, z, here, rest⟩ := run'.split steady comma first y
      obtain ⟨_, c, tail, other, chars⟩ := first here
      rw [rest, chars] at same
      simp only [List.append_assoc, List.append_cancel_left_eq] at same
      exact absurd same.symm (lead_append_ne unit other _ _)
  | cons a as ih =>
    obtain ⟨u, z, first, rest⟩ := run.split steady comma (inked a List.mem_cons_self) x
    cases bs with
    | nil =>
      cases run'
      obtain ⟨_, c, tail, other, chars⟩ := inked a List.mem_cons_self first
      rw [rest, chars] at same
      simp only [List.append_assoc, List.append_cancel_left_eq] at same
      exact absurd same (lead_append_ne unit other _ _)
    | cons b bs =>
      obtain ⟨u', z', first', rest'⟩ := run'.split steady comma (inked' b List.mem_cons_self) y
      have stops (nodes : List Node) (z : List Char) :
          Stops ((if nodes.isEmpty then '\n' else ',') :: z) := by
        cases nodes <;> exact ⟨_, _, rfl, rfl⟩
      have parts := rest.symm.trans (same.trans rest')
      have heads : a = b := told 0 a b rfl rfl unit first first' (stops as z) (stops bs z') parts
      subst heads
      rw [first.unique first', List.append_cancel_left_eq, List.cons.injEq] at parts
      -- Behind equal heads, the next character tells whether there are more elements.
      have mark := parts.1
      cases as with
      | nil =>
        cases bs with
        | nil => rfl
        | cons => exact absurd mark (show '\n' ≠ ',' by decide)
      | cons c as =>
        cases bs with
        | nil => exact absurd mark (show ',' ≠ '\n' by decide)
        | cons d bs =>
          obtain ⟨t, middle, later⟩ := run.later first
          obtain ⟨t', middle', later'⟩ := run'.later first
          rw [← middle.unique middle'] at later'
          have grown := (first.grows (Node.steady_print a)).trans (middle.grows (steady place))
          have tails : c :: as = d :: bs := ih (by rwa [grown.unit])
            (fun i a b found found' => told (i + 1) a b found found')
            (fun node member => inked node (List.mem_cons_of_mem _ member))
            (fun node member => inked' node (List.mem_cons_of_mem _ member)) later later'
          rw [tails]

end Elements

/-- An opening brace ends its line. -/
theorem chars_brace (w : Writer) :
    ((w.writeLine "\x7b").indent).chars = w.chars ++ (w.lead ++ ['\x7b', '\n']) :=
  w.chars_writeLine (by decide) (by decide)

/-- Elements in braces are told. -/
theorem eq_of_prints_braces {between : Nat → Print Unit}
    (steady : ∀ place, Steady (between place))
    (comma : ∀ place ⦃u u' : Writer⦄, u.lead = [] → Prints (between place) u u' →
      ∃ rest, u'.chars = u.chars ++ ',' :: rest)
    {as bs : List Node} (told : ToldEach as bs) (inked : ∀ node ∈ as, Inked node)
    (inked' : ∀ node ∈ bs, Inked node) {step step' : Print Unit}
    (each : ∀ ⦃u u'⦄, Prints step u u' → PrintsEach between 0 u as u')
    (each' : ∀ ⦃u u'⦄, Prints step' u u' → PrintsEach between 0 u bs u')
    {w v v' : Writer} {x y : List Char} (unit : '\n' ∉ w.unit.toList)
    (run : Prints (do
      writeLine "\x7b"
      indented step
      writeLine ""
      write "\x7d") w v)
    (run' : Prints (do
      writeLine "\x7b"
      indented step'
      writeLine ""
      write "\x7d") w v') (same : v.chars ++ x = v'.chars ++ y) : as = bs := by
  obtain ⟨u, rest, inner, chars, _⟩ := prints_braces run
  obtain ⟨u', rest', inner', chars', _⟩ := prints_braces run'
  rw [chars, chars', List.append_assoc, List.append_assoc] at same
  have kept : (w.writeLine "\x7b").indent.unit = w.unit := w.unit_write _
  exact PrintsEach.eq steady comma (by rwa [kept]) told inked inked' (each inner) (each' inner')
    same

/-- What is printed in braces leads on in a line. -/
theorem inks_of_braces {step : Print Unit} (steady : Steady step) {w v : Writer}
    (run : Prints (do
      writeLine "\x7b"
      indented step
      writeLine ""
      write "\x7d") w v) : Inks w v := by
  obtain ⟨u, rest, inner, chars, ended⟩ := prints_braces run
  obtain ⟨more, grown⟩ := (inner.grows steady).chars
  refine ⟨ended, '\x7b', '\n' :: (more ++ '\n' :: rest), by decide, ?_⟩
  rw [chars, ← grown, chars_brace]
  simp

theorem chars_comma {u : Writer} (inside : u.lead = []) :
    (u.writeLine ",").chars = u.chars ++ [',', '\n'] := by
  rw [Writer.chars_writeLine u (by decide) (by decide), inside]
  rfl

/-- Between elements on lines there is first a comma. -/
theorem comma_lineBreak (place : Nat) ⦃u u' : Writer⦄ (inside : u.lead = [])
    (run : Prints (lineBreak place) u u') : ∃ rest, u'.chars = u.chars ++ ',' :: rest := by
  rw [prints_writeLine.mp run]
  exact ⟨_, chars_comma inside⟩

/-- Between bytes there is first a comma. -/
theorem comma_rowBreak (place : Nat) ⦃u u' : Writer⦄ (inside : u.lead = [])
    (run : Prints (rowBreak place) u u') : ∃ rest, u'.chars = u.chars ++ ',' :: rest := by
  unfold rowBreak at run
  split at run
  · rw [prints_writeLine.mp run]
    exact ⟨_, chars_comma inside⟩
  · rw [prints_write.mp run, Writer.chars_write u (by decide) (by decide), inside]
    exact ⟨_, rfl⟩

section Literals

variable {as bs : List Node} (told : ToldEach as bs) (inked : ∀ node ∈ as, Inked node)
  (inked' : ∀ node ∈ bs, Inked node)

include told inked inked'

/-- Literals are told apart if their elements are. -/
theorem told_literal : Told (.literal as) (.literal bs) := by
  intro w v v' x y unit run run' _ _ same
  have elements : as = bs := eq_of_prints_braces (fun _ => steady_writeLine _) comma_lineBreak told
    inked inked' (fun _ _ run => printsEach_of_printLines 0 run)
    (fun _ _ run => printsEach_of_printLines 0 run) unit run run' same
  rw [elements]

/-- Literals of bytes are told apart if their elements are. -/
theorem told_bytesLiteral : Told (.bytesLiteral as) (.bytesLiteral bs) := by
  intro w v v' x y unit run run' _ _ same
  have elements : as = bs := eq_of_prints_braces steady_rowBreak comma_rowBreak told inked inked'
    (fun _ _ run => printsEach_of_printRows run) (fun _ _ run => printsEach_of_printRows run) unit
    run run' same
  rw [elements]

end Literals

theorem inked_literal (nodes : List Node) : Inked (.literal nodes) :=
  fun _ _ run => inks_of_braces (steady_printLines nodes) run

theorem inked_bytesLiteral (nodes : List Node) : Inked (.bytesLiteral nodes) :=
  fun _ _ run => inks_of_braces (steady_printRows 0 nodes) run

/-! ### Forms -/

/-- All names are words, whatever they are declared as. -/
def wordsOnly (name : String) (_ : Node) : Prop := IsWord name

/-- An expression of a form leads on in a line. -/
theorem inked_of_fits {form : Form} {node : Node} (fits : form.Fits wordsOnly node) :
    Inked node := by
  cases form with
  | boolean =>
    obtain ⟨value, rfl⟩ := fits
    exact (atom_boolean value).toInked
  | integer =>
    obtain ⟨value, rfl⟩ := fits
    exact (atom_integer value).toInked
  | hexadecimal width =>
    obtain ⟨value, rfl⟩ := fits
    exact (atom_hexInteger value width).toInked
  | text =>
    obtain ⟨content, rfl⟩ := fits
    exact inked_string content
  | bytes =>
    obtain ⟨data, rfl⟩ := fits
    exact inked_bytesLiteral _
  | array element =>
    obtain ⟨name, word, rfl⟩ := fits
    exact word.atom.toInked
  | optional element =>
    rcases fits with rfl | ⟨name, word, rfl⟩
    · exact atom_nullPointer.toInked
    · exact word.atom.toInked
  | place struct =>
    obtain ⟨name, index, word, rfl⟩ := fits
    exact (atom_place word index).toInked
  | unloaded =>
    rw [show node = .identifier unloadedName from fits]
    exact (atom_identifier (by decide) (eq_false_of_any (by decide))).toInked
  | model =>
    obtain ⟨model, rfl⟩ := fits
    exact (atom_symbol model).toInked
  | row fields =>
    obtain ⟨nodes, rfl, _⟩ := fits
    exact inked_literal nodes
  | list element =>
    obtain ⟨nodes, rfl, _⟩ := fits
    exact inked_literal nodes

/-- Nodes of given forms, one for each. -/
theorem inked_of_fitEach {forms : List Form} {nodes : List Node}
    (fits : FitEach wordsOnly forms nodes) : ∀ node ∈ nodes, Inked node := by
  induction forms generalizing nodes with
  | nil =>
    rw [show nodes = [] from fits]
    exact nofun
  | cons form forms ih =>
    obtain ⟨first, rest, rfl, here, later⟩ := fits
    intro node member
    rcases List.mem_cons.mp member with rfl | inside
    · exact inked_of_fits here
    · exact ih later node inside

/-- Rows of bytes are told apart. -/
theorem told_bytes (data data' : List UInt8) : Told (bytesOf data) (bytesOf data') := by
  have inked (data : List UInt8) : ∀ node ∈ data.map fun b : UInt8 =>
      Node.hexInteger b.toNat Node.defaultWidth, Inked node := by
    intro node member
    obtain ⟨byte, _, rfl⟩ := List.mem_map.mp member
    exact (atom_hexInteger _ _).toInked
  refine told_bytesLiteral (fun i a b found found' => ?_) (inked data) (inked data')
  rw [List.getElem?_map, Option.map_eq_some_iff] at found found'
  obtain ⟨byte, _, rfl⟩ := found
  obtain ⟨byte', _, rfl⟩ := found'
  exact (atom_hexInteger _ _).told (atom_hexInteger _ _) fun same => by rw [hexSpelling_inj same]

mutual

/-- Two nodes of one form are told by their texts. -/
theorem Form.Fits.told {form : Form} {a b : Node} (fits : form.Fits wordsOnly a)
    (fits' : form.Fits wordsOnly b) : Told a b := by
  cases form with
  | boolean =>
    obtain ⟨value, rfl⟩ := fits
    obtain ⟨value', rfl⟩ := fits'
    refine (atom_boolean value).told (atom_boolean value') fun same => ?_
    cases value <;> cases value' <;> first | rfl | exact absurd same (by decide)
  | integer =>
    obtain ⟨value, rfl⟩ := fits
    obtain ⟨value', rfl⟩ := fits'
    exact (atom_integer value).told (atom_integer value') fun same => by
      rw [Text.decimal_inj.mp same]
  | hexadecimal width =>
    obtain ⟨value, rfl⟩ := fits
    obtain ⟨value', rfl⟩ := fits'
    exact (atom_hexInteger value width).told (atom_hexInteger value' width) fun same => by
      rw [hexSpelling_inj same]
  | text =>
    obtain ⟨content, rfl⟩ := fits
    obtain ⟨content', rfl⟩ := fits'
    exact told_string content content'
  | bytes =>
    obtain ⟨data, rfl⟩ := fits
    obtain ⟨data', rfl⟩ := fits'
    exact told_bytes data data'
  | array element =>
    obtain ⟨name, word, rfl⟩ := fits
    obtain ⟨name', word', rfl⟩ := fits'
    exact word.atom.told word'.atom fun same => by rw [same]
  | optional element =>
    rcases fits with rfl | ⟨name, word, rfl⟩
    · rcases fits' with rfl | ⟨name', word', rfl⟩
      · exact atom_nullPointer.told atom_nullPointer fun _ => rfl
      · exact atom_nullPointer.told word'.atom fun same => absurd same.symm word'.other
    · rcases fits' with rfl | ⟨name', word', rfl⟩
      · exact word.atom.told atom_nullPointer fun same => absurd same word.other
      · exact word.atom.told word'.atom fun same => by rw [same]
  | place struct =>
    obtain ⟨name, index, word, rfl⟩ := fits
    obtain ⟨name', index', word', rfl⟩ := fits'
    refine (atom_place word index).told (atom_place word' index') fun same => ?_
    obtain ⟨names, indices⟩ := placeSpelling_inj word word' same
    rw [names, indices]
  | unloaded =>
    rw [show a = .identifier unloadedName from fits, show b = .identifier unloadedName from fits']
    exact fun _ _ _ _ _ _ _ _ _ _ _ => rfl
  | model =>
    obtain ⟨model, rfl⟩ := fits
    obtain ⟨model', rfl⟩ := fits'
    exact (atom_symbol model).told (atom_symbol model') fun same => by rw [same]
  | row fields =>
    obtain ⟨nodes, rfl, each⟩ := fits
    obtain ⟨nodes', rfl, each'⟩ := fits'
    exact told_literal (FitEach.told each each') (inked_of_fitEach each) (inked_of_fitEach each')
  | list element =>
    obtain ⟨nodes, rfl, each⟩ := fits
    obtain ⟨nodes', rfl, each'⟩ := fits'
    refine told_literal (fun i c d found found' => ?_) (fun node member =>
      inked_of_fits (each node member)) (fun node member => inked_of_fits (each' node member))
    exact (each c (List.mem_of_getElem? found)).told (each' d (List.mem_of_getElem? found'))

/-- Nodes of the same forms are told place by place. -/
theorem FitEach.told {forms : List Form} {as bs : List Node} (fits : FitEach wordsOnly forms as)
    (fits' : FitEach wordsOnly forms bs) : ToldEach as bs := by
  cases forms with
  | nil =>
    rw [show as = [] from fits]
    exact nofun
  | cons form forms =>
    obtain ⟨a, as, rfl, first, later⟩ := fits
    obtain ⟨b, bs, rfl, first', later'⟩ := fits'
    intro i c d found found'
    cases i with
    | zero =>
      rw [← Option.some.inj found, ← Option.some.inj found']
      exact first.told first'
    | succ i => exact FitEach.told later later' i c d found found'

end

end CodecTables.Source
