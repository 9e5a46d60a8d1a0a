import CodecTables.Proofs.Source.Unambiguous

/-!
# Texts of sources

A source can be read off its text if its statements are single-line comments and declarations of
words, with values of the forms of their types (`eq_of_prints_printAll`). What is declared is told
by the words up to the equals sign, with a blank after each: the qualifiers, the type and the name.
The type tells the form of the value, and the value is told by its text.
-/

namespace CodecTables.Source

open Print

/-! ### Types -/

/-- The text of a type in a declaration. -/
def typeName : Node → String
  | .sizeType => "size_t"
  | .charType => "char"
  | .pointerType pointee => typeName pointee ++ "*"
  | .uintType bits => "uint" ++ Text.decimal bits ++ "_t"
  | .structType name => name
  | .arrayType element => typeName element
  | _ => ""

/-- The texts of the types that have values. -/
def typeNames : List String := ["size_t", "uint8_t", "char*", "uint32_t"] ++ rowFields.map (·.1)

/-- The type of a text. -/
def typeOf (text : String) : Node :=
  if text = "size_t" then .sizeType
  else if text = "uint8_t" then .arrayType uint8
  else if text = "char*" then .arrayType stringType
  else if text = "uint32_t" then .arrayType uint32
  else .arrayType (.structType text)

/-- The types that have values. -/
theorem eq_of_valueForm? {type : Node} (known : (valueForm? type).isSome) :
    type = .sizeType ∨ type = .arrayType uint8 ∨ type = .arrayType stringType ∨
      type = .arrayType uint32 ∨
      ∃ struct ∈ rowFields.map (·.1), type = .arrayType (.structType struct) := by
  cases type with
  | sizeType => exact .inl rfl
  | arrayType element =>
    cases element with
    | uintType bits =>
      by_cases byte : bits = 8
      · exact .inr (.inl (by rw [byte, uint8]))
      · by_cases word : bits = 32
        · exact .inr (.inr (.inr (.inl (by rw [word, uint32]))))
        · simp [valueForm?, elementForm?, byte, word] at known
    | pointerType pointee =>
      cases pointee with
      | charType => exact .inr (.inr (.inl rfl))
      | _ => cases known
    | structType struct =>
      have listed : (rowFields.lookup struct).isSome := by
        simpa [valueForm?, elementForm?] using known
      obtain ⟨fields, found⟩ := Option.isSome_iff_exists.mp listed
      obtain ⟨front, back, split, _⟩ := List.lookup_eq_some_iff.mp found
      refine .inr (.inr (.inr (.inr ⟨struct, ?_, rfl⟩)))
      rw [split]
      simp
    | _ => cases known
  | _ => cases known

/-- The name of a type with a known form is one of the type names. -/
theorem typeName_mem {type : Node} (known : (valueForm? type).isSome) :
    typeName type ∈ typeNames := by
  rcases eq_of_valueForm? known with rfl | rfl | rfl | rfl | ⟨struct, member, rfl⟩
  · decide
  · decide
  · decide
  · decide
  · exact List.mem_append_right _ member

theorem typeOf_typeName {type : Node} (known : (valueForm? type).isSome) :
    typeOf (typeName type) = type := by
  rcases eq_of_valueForm? known with rfl | rfl | rfl | rfl | ⟨struct, member, rfl⟩
  · rfl
  · rfl
  · rfl
  · rfl
  · have other : ∀ struct ∈ rowFields.map (·.1), struct ≠ "size_t" ∧ struct ≠ "uint8_t" ∧
        struct ≠ "char*" ∧ struct ≠ "uint32_t" := by decide
    obtain ⟨size, byte, text, word⟩ := other struct member
    rw [typeName, typeName, typeOf, if_neg size, if_neg byte, if_neg text, if_neg word]

theorem eq_of_prints_type {type : Node} {w v : Writer} (known : (valueForm? type).isSome)
    (run : Prints type.print w v) : v = w.write (typeName type) := by
  rcases eq_of_valueForm? known with rfl | rfl | rfl | rfl | ⟨struct, member, rfl⟩
  · exact prints_write.mp run
  · exact eq_of_prints_writeInteger run
  · obtain ⟨u, first, last⟩ := prints_bind.mp run
    rw [prints_write.mp last, prints_write.mp first]
    exact (Writer.write_append w "char" "*").symm
  · exact eq_of_prints_writeInteger run
  · exact prints_write.mp run

/-! ### Words -/

/-- The words of a declaration before the equals sign. -/
def heading (type : Node) (name : String) (isStatic isConstant : Bool) : List String :=
  (if isStatic then ["static"] else []) ++ (if isConstant then ["const"] else []) ++
    [typeName type, name ++ declaratorMarks type]

/-- Words with a blank after each. -/
def spaced (words : List String) : List Char := words.flatMap fun word => word.toList ++ [' ']

/-- The character is not of a word before an equals sign. -/
def isGap (c : Char) : Bool := [' ', '=', '/', '\n'].contains c

/-- The words have no gaps in them. -/
def Solid (words : List String) : Prop := ∀ word ∈ words, ∀ c ∈ word.toList, isGap c = false

/-- Words have no gaps in them if none is found. -/
theorem solid_of_all {words : List String}
    (none : words.all (fun word => !word.toList.any isGap) = true) : Solid words :=
  fun word member => eq_false_of_any (by simpa using List.all_eq_true.mp none word member)

theorem isGap_of_isAlphanum {c : Char} (alphanum : c.isAlphanum = true) : isGap c = false :=
  contains_eq_false_of_any (by decide) alphanum

/-- The words of a declaration have no gaps in them. -/
theorem solid_heading {type : Node} {name : String} (known : (valueForm? type).isSome)
    (word : IsWord name) (isStatic isConstant : Bool) :
    Solid (heading type name isStatic isConstant) := by
  have types : Solid typeNames := solid_of_all (by decide)
  have qualifier : Solid ["static", "const"] := solid_of_all (by decide)
  have marks : ∀ c ∈ (declaratorMarks type).toList, isGap c = false := by
    unfold declaratorMarks
    split <;> exact eq_false_of_any (by decide)
  intro text member c inside
  simp only [heading, List.mem_append, List.mem_cons, List.not_mem_nil, or_false] at member
  rcases member with (first | second) | rfl | rfl
  · cases isStatic with
    | false => exact absurd first List.not_mem_nil
    | true => exact qualifier text (List.mem_cons.mpr (.inl (List.mem_singleton.mp first))) c inside
  · cases isConstant with
    | false => exact absurd second List.not_mem_nil
    | true => exact qualifier text (List.mem_cons_of_mem _ second) c inside
  · exact types _ (typeName_mem known) c inside
  · rw [String.toList_append] at inside
    rcases List.mem_append.mp inside with letter | mark
    · rcases word.letters c letter with alphanum | rfl | rfl
      · exact isGap_of_isAlphanum alphanum
      · rfl
      · rfl
    · exact marks c mark

theorem spaced_cons (word : String) (words : List String) (x : List Char) :
    spaced (word :: words) ++ x = word.toList ++ ' ' :: (spaced words ++ x) := by
  simp [spaced]

theorem Solid.blank_notMem {words : List String} {word : String} (solid : Solid words)
    (member : word ∈ words) : ' ' ∉ word.toList :=
  fun inside => Bool.noConfusion (solid word member ' ' inside)

/-- No word of a declaration is the equals sign. -/
theorem Solid.append_ne {word : String} {words : List String} (solid : Solid (word :: words))
    (x y : List Char) : word.toList ++ ' ' :: x ≠ '=' :: ' ' :: y := by
  intro same
  have sign : word.toList = ['='] :=
    eq_of_append_cons_eq (solid.blank_notMem List.mem_cons_self) (by decide) same
  have solid' : isGap '=' = false := solid word List.mem_cons_self '=' (by simp [sign])
  cases solid'

/-- Words are told by their text up to the equals sign. -/
theorem spaced_inj {words words' : List String} {x y : List Char} (solid : Solid words)
    (solid' : Solid words')
    (same : spaced words ++ '=' :: ' ' :: x = spaced words' ++ '=' :: ' ' :: y) :
    words = words' := by
  induction words generalizing words' with
  | nil =>
    cases words' with
    | nil => rfl
    | cons word' rest' =>
      rw [spaced_cons] at same
      exact absurd same.symm (solid'.append_ne _ _)
  | cons word rest ih =>
    cases words' with
    | nil =>
      rw [spaced_cons] at same
      exact absurd same (solid.append_ne _ _)
    | cons word' rest' =>
      rw [spaced_cons, spaced_cons] at same
      have first : word = word' := String.toList_inj.mp
        (eq_of_append_cons_eq (solid.blank_notMem List.mem_cons_self)
          (solid'.blank_notMem List.mem_cons_self) same)
      subst first
      rw [ih (fun text member => solid text (List.mem_cons_of_mem _ member))
        (fun text member => solid' text (List.mem_cons_of_mem _ member))
        (List.cons.inj (List.append_cancel_left same)).2]

/-- What is declared is told by the words before the equals sign. -/
theorem heading_inj {type type' : Node} {name name' : String}
    {isStatic isStatic' isConstant isConstant' : Bool} (known : (valueForm? type).isSome)
    (known' : (valueForm? type').isSome)
    (same : heading type name isStatic isConstant = heading type' name' isStatic' isConstant') :
    type = type' ∧ name = name' ∧ isStatic = isStatic' ∧ isConstant = isConstant' := by
  have last : [typeName type, name ++ declaratorMarks type] =
      [typeName type', name' ++ declaratorMarks type'] := List.append_inj_right' same rfl
  have front := List.append_inj_left' same rfl
  simp only [List.cons.injEq, and_true] at last
  have types : type = type' := by
    rw [← typeOf_typeName known, last.1, typeOf_typeName known']
  subst types
  have names := congrArg String.toList last.2
  rw [String.toList_append, String.toList_append, List.append_cancel_right_eq] at names
  have flags : ∀ isStatic isStatic' isConstant isConstant' : Bool,
      (if isStatic then ["static"] else []) ++ (if isConstant then ["const"] else []) =
        (if isStatic' then ["static"] else []) ++ (if isConstant' then ["const"] else []) →
      isStatic = isStatic' ∧ isConstant = isConstant' := by decide
  exact ⟨rfl, String.toList_inj.mp names, flags _ _ _ _ front⟩

/-! ### Statements -/

/-- The statement can be read off its text. -/
inductive Legible : Node → Prop
  | comment {line : String} : '\n' ∉ line.toList → Legible (.comment (line ++ "\n"))
  | assign {type value : Node} {name : String} {form : Form} (isStatic isConstant : Bool) :
      IsWord name → valueForm? type = some form → form.Fits wordsOnly value →
      Legible (.assign (.declarator type (.identifier name) isStatic isConstant) value)

/-- A statement that may stand after a source can be read off its text, if it declares a word and
the source declares words only. -/
theorem Admits.legible {source : List Node} {statement : Node} (admits : Admits source statement)
    (own : ∀ name, statement.declares? = some name → IsWord name)
    (words : ∀ name ∈ declaredNames source, IsWord name) : Legible statement := by
  cases statement with
  | comment text =>
    obtain ⟨line, rfl, single⟩ := admits
    exact .comment single
  | assign declarator value =>
    obtain ⟨type, name, isStatic, isConstant, form, rfl, known, fits⟩ := admits.of_assign
    refine .assign isStatic isConstant (own name rfl) known (fits.mono fun name element known => ?_)
    obtain ⟨declaration, member, declared⟩ := known.exists_mem
    exact words name (List.mem_filterMap.mpr ⟨declaration, member, declared⟩)
  | _ => exact admits.elim

/-- A comment of one line is written on a line of its own, and a blank line follows. -/
theorem chars_comment {line : String} (single : '\n' ∉ line.toList) {w v : Writer}
    (run : Prints (Node.comment (line ++ "\n")).print w v) :
    v.chars = w.chars ++ (w.lead ++ '/' :: '/' :: ' ' :: (line.toList ++ ['\n', '\n'])) := by
  obtain ⟨u, mark, text⟩ := prints_bind.mp run
  have lines : v = (w.writeLine ("// " ++ line)).writeLine "" := by
    rw [prints_writeLine.mp text, prints_write.mp mark]
    simp [Writer.writeLine, Writer.write_append]
  rw [lines, Writer.chars_writeLine_nil, Writer.chars_writeLine w (by simpa using single) (by simp)]
  simp

section Assign

variable {type value : Node} {name : String} {isStatic isConstant : Bool}

/-- The text of a declaration up to the blank after the equals sign. -/
def declaredText (type : Node) (name : String) (isStatic isConstant : Bool) : String :=
  String.ofList (spaced (heading type name isStatic isConstant) ++ ['=', ' '])

theorem declaredText_eq :
    declaredText type name isStatic isConstant = qualifiers isStatic isConstant ++ typeName type ++
      " " ++ name ++ declaratorMarks type ++ " = " := by
  apply String.toList_inj.mp
  cases isStatic <;> cases isConstant <;> simp [declaredText, qualifiers, heading, spaced]

/-- A declarator and the equals sign are printed as their text. -/
theorem eq_of_prints_declaredText (known : (valueForm? type).isSome) {w u : Writer}
    (run : Prints (do
      (Node.declarator type (.identifier name) isStatic isConstant).print
      write " = ") w u) : u = w.write (declaredText type name isStatic isConstant) := by
  obtain ⟨_, run, sign⟩ := prints_bind.mp run
  rw [print_declarator] at run
  obtain ⟨_, first, run⟩ := prints_bind.mp run
  obtain ⟨_, typed, run⟩ := prints_bind.mp run
  obtain ⟨_, blank, run⟩ := prints_bind.mp run
  obtain ⟨_, named, marks⟩ := prints_bind.mp run
  rw [prints_write.mp sign, prints_write.mp marks, prints_write.mp named, prints_write.mp blank,
    eq_of_prints_type known typed, prints_write.mp first, declaredText_eq]
  simp only [Writer.write_append]

theorem newline_notMem_declaredText (known : (valueForm? type).isSome) (word : IsWord name) :
    '\n' ∉ (declaredText type name isStatic isConstant).toList := by
  intro member
  simp only [declaredText, String.toList_ofList, spaced, List.mem_append, List.mem_flatMap]
    at member
  rcases member with ⟨text, inside, letter | blank⟩ | sign
  · cases solid_heading known word isStatic isConstant text inside '\n' letter
  · exact absurd blank (by decide)
  · exact absurd sign (by decide)

/-- A declaration is the words before the equals sign, and the value up to the semicolon. -/
theorem prints_assign (known : (valueForm? type).isSome) (inked : Inked value) {w v : Writer}
    (run : Prints (Node.assign (.declarator type (.identifier name) isStatic isConstant)
      value).print w v) :
    ∃ u', Prints value.print (w.write (declaredText type name isStatic isConstant)) u' ∧
      v.chars = u'.chars ++ [';', '\n', '\n'] := by
  obtain ⟨_, left, run⟩ := prints_bind.mp run
  obtain ⟨u, sign, run⟩ := prints_bind.mp run
  obtain ⟨u', valued, run⟩ := prints_bind.mp run
  obtain ⟨_, closed, last⟩ := prints_bind.mp run
  have begun := eq_of_prints_declaredText known (prints_bind.mpr ⟨_, left, sign⟩)
  rw [begun] at valued
  refine ⟨u', valued, ?_⟩
  rw [prints_writeLine.mp last, prints_writeLine.mp closed, Writer.chars_writeLine_nil,
    Writer.chars_writeLine u' (by decide) (by decide), (inked valued).1]
  simp

/-- The text before a value is its words and the equals sign. -/
theorem chars_declaredText (known : (valueForm? type).isSome) (word : IsWord name) (w : Writer) :
    (w.write (declaredText type name isStatic isConstant)).chars = w.chars ++ (w.lead ++
      (spaced (heading type name isStatic isConstant) ++ ['=', ' '])) := by
  rw [Writer.chars_write w (newline_notMem_declaredText known word) (by simp [declaredText]),
    declaredText, String.toList_ofList]

/-- What is printed of a declaration begins with its words. -/
theorem chars_assign (known : (valueForm? type).isSome) (word : IsWord name)
    (inked : Inked value) {w v : Writer}
    (run : Prints (Node.assign (.declarator type (.identifier name) isStatic isConstant)
      value).print w v) :
    ∃ rest, v.chars = w.chars ++ (w.lead ++
      (spaced (heading type name isStatic isConstant) ++ '=' :: ' ' :: rest)) := by
  obtain ⟨u', valued, chars⟩ := prints_assign known inked run
  obtain ⟨more, grown⟩ := (valued.grows value.steady_print).chars
  rw [chars_declaredText known word] at grown
  exact ⟨more ++ [';', '\n', '\n'], by rw [chars, ← grown]; simp⟩

/-- A declaration does not begin as a comment does. -/
theorem spaced_heading_append_ne (known : (valueForm? type).isSome) (word : IsWord name)
    (x y : List Char) :
    spaced (heading type name isStatic isConstant) ++ x ≠ '/' :: '/' :: ' ' :: y := by
  intro same
  have solid := solid_heading known word isStatic isConstant
  cases words : heading type name isStatic isConstant with
  | nil => cases isStatic <;> cases isConstant <;> cases words
  | cons first rest =>
    rw [words] at same solid
    rw [spaced_cons] at same
    have marks : first.toList = ['/', '/'] :=
      eq_of_append_cons_eq (solid.blank_notMem List.mem_cons_self) (by decide) same
    cases solid first List.mem_cons_self '/' (by simp [marks])

/-- Declarations are told by their texts. -/
theorem eq_of_prints_assign {type' value' : Node} {name' : String} {isStatic' isConstant' : Bool}
    {form form' : Form} (known : valueForm? type = some form) (word : IsWord name)
    (fits : form.Fits wordsOnly value) (known' : valueForm? type' = some form')
    (word' : IsWord name') (fits' : form'.Fits wordsOnly value') {w v v' : Writer}
    {x y : List Char} (unit : '\n' ∉ w.unit.toList)
    (run : Prints (Node.assign (.declarator type (.identifier name) isStatic isConstant)
      value).print w v)
    (run' : Prints (Node.assign (.declarator type' (.identifier name') isStatic' isConstant')
      value').print w v') (same : v.chars ++ x = v'.chars ++ y) :
    Node.assign (.declarator type (.identifier name) isStatic isConstant) value =
      .assign (.declarator type' (.identifier name') isStatic' isConstant') value' := by
  have types : (valueForm? type).isSome := Option.isSome_of_eq_some known
  have types' : (valueForm? type').isSome := Option.isSome_of_eq_some known'
  have inked := inked_of_fits fits
  have inked' := inked_of_fits fits'
  obtain ⟨rest, chars⟩ := chars_assign types word inked run
  obtain ⟨rest', chars'⟩ := chars_assign types' word' inked' run'
  have words := same
  rw [chars, chars'] at words
  simp only [List.append_assoc, List.append_cancel_left_eq, List.cons_append] at words
  obtain ⟨rfl, rfl, rfl, rfl⟩ := heading_inj types types' (spaced_inj
    (solid_heading types word isStatic isConstant) (solid_heading types' word' _ _) words)
  obtain rfl : form = form' := Option.some.inj (known.symm.trans known')
  obtain ⟨u, valued, ended⟩ := prints_assign types inked run
  obtain ⟨u', valued', ended'⟩ := prints_assign types inked' run'
  rw [ended, ended', List.append_assoc, List.append_assoc] at same
  have kept : '\n' ∉ (w.write (declaredText type name isStatic isConstant)).unit.toList := by
    rwa [Writer.unit_write]
  have values : value = value' :=
    fits.told fits' kept valued valued' ⟨_, _, rfl, rfl⟩ ⟨_, _, rfl, rfl⟩ same
  rw [values]

end Assign

/-- What is printed of a statement is not empty. -/
theorem Legible.length_lt {a : Node} (legible : Legible a) {w v : Writer}
    (run : Prints a.print w v) : w.chars.length < v.chars.length := by
  cases legible with
  | comment single =>
    rw [chars_comment single run]
    simp only [List.length_append, List.length_cons]
    omega
  | assign isStatic isConstant word known fits =>
    obtain ⟨rest, chars⟩ := chars_assign (Option.isSome_of_eq_some known) word
      (inked_of_fits fits) run
    rw [chars]
    simp only [List.length_append, List.length_cons]
    omega

/-- Statements are told by their texts. -/
theorem Legible.eq {a b : Node} (legible : Legible a) (legible' : Legible b) {w v v' : Writer}
    {x y : List Char} (unit : '\n' ∉ w.unit.toList) (run : Prints a.print w v)
    (run' : Prints b.print w v') (same : v.chars ++ x = v'.chars ++ y) : a = b := by
  cases legible with
  | comment single =>
    cases legible' with
    | comment single' =>
      rw [chars_comment single run, chars_comment single' run'] at same
      simp only [List.append_assoc, List.append_cancel_left_eq, List.cons_append, List.nil_append,
        List.cons.injEq, true_and] at same
      have lines := eq_of_append_cons_eq single single' same
      rw [String.toList_inj.mp lines]
    | assign isStatic isConstant word known fits =>
      obtain ⟨rest, chars⟩ := chars_assign (Option.isSome_of_eq_some known) word
        (inked_of_fits fits) run'
      rw [chars_comment single run, chars] at same
      simp only [List.append_assoc, List.append_cancel_left_eq, List.cons_append] at same
      exact absurd same.symm
        (spaced_heading_append_ne (Option.isSome_of_eq_some known) word _ _)
  | assign isStatic isConstant word known fits =>
    cases legible' with
    | comment single =>
      obtain ⟨rest, chars⟩ := chars_assign (Option.isSome_of_eq_some known) word
        (inked_of_fits fits) run
      rw [chars_comment single run', chars] at same
      simp only [List.append_assoc, List.append_cancel_left_eq, List.cons_append] at same
      exact absurd same (spaced_heading_append_ne (Option.isSome_of_eq_some known) word _ _)
    | assign isStatic' isConstant' word' known' fits' =>
      exact eq_of_prints_assign known word fits known' word' fits' unit run run' same

/-- Sources of such statements are told by their texts. -/
theorem eq_of_prints_printAll {as bs : List Node} (legible : ∀ node ∈ as, Legible node)
    (legible' : ∀ node ∈ bs, Legible node) {w v v' : Writer} (unit : '\n' ∉ w.unit.toList)
    (run : Prints (printAll as) w v) (run' : Prints (printAll bs) w v')
    (same : v.chars = v'.chars) : as = bs := by
  induction as generalizing bs w with
  | nil =>
    rw [prints_pure.mp run] at same
    cases bs with
    | nil => rfl
    | cons b bs =>
      -- No statement is printed as nothing, so there is none on the other side.
      obtain ⟨u, first, later⟩ := prints_bind.mp run'
      have longer := (legible' b List.mem_cons_self).length_lt first
      have grown := (later.grows (steady_printAll bs)).chars.length_le
      rw [same] at longer
      omega
  | cons a as ih =>
    obtain ⟨u, first, later⟩ := prints_bind.mp run
    obtain ⟨x, grown⟩ := (later.grows (steady_printAll as)).chars
    cases bs with
    | nil =>
      rw [prints_pure.mp run'] at same
      have longer := (legible a List.mem_cons_self).length_lt first
      rw [← same, ← grown, List.length_append] at longer
      omega
    | cons b bs =>
      obtain ⟨u', first', later'⟩ := prints_bind.mp run'
      obtain ⟨y, grown'⟩ := (later'.grows (steady_printAll bs)).chars
      have heads : a = b := (legible a List.mem_cons_self).eq (legible' b List.mem_cons_self) unit
        first first' (grown.trans (same.trans grown'.symm))
      subst heads
      have kept : '\n' ∉ u.unit.toList := by
        rwa [(first.grows a.steady_print).unit]
      rw [← first.unique first'] at later'
      rw [ih (fun node member => legible node (List.mem_cons_of_mem _ member))
        (fun node member => legible' node (List.mem_cons_of_mem _ member)) kept later later']

end CodecTables.Source
