import CodecTables.Proofs.Source.Unambiguous
import CodecTables.Source.Constant

/-!
# Hexadecimal literals

A hexadecimal number is written with a digit for every four bits of its width. The text is a literal
that reads back as the number, unless the number is below zero: its sign comes after the mark `0x`
and takes the place of a digit, which no literal has (`isHexLiteral_hexSpelling_iff`).
-/

namespace CodecTables.Source

/-! ### Texts of numbers -/

/-- The text is the mark `0x` and upper-case hexadecimal digits, at least as many as are asked for
and at least one, and the digits stand for the number. -/
def IsHexLiteral (least : Int) (text : String) (number : Int) : Prop :=
  ∃ digits, text.toList = '0' :: 'x' :: digits ∧ (∀ d ∈ digits, Text.isUpperHex d = true) ∧
    max least 1 ≤ digits.length ∧ (Text.hexNumber digits : Int) = number

/-- A hexadecimal number is its mark with its digits, padded to the width. -/
theorem toList_hexSpelling (value width : Int) :
    (hexSpelling value width).toList = '0' :: 'x' ::
      Text.padded Text.hexDigits (max (Int.fdiv width 4) 1).toNat value := by
  simp [hexSpelling]

/-- A text is a literal of one number at most. -/
theorem IsHexLiteral.unique {least : Int} {text : String} {number number' : Int}
    (literal : IsHexLiteral least text number) (literal' : IsHexLiteral least text number') :
    number = number' := by
  obtain ⟨digits, same, _, _, rfl⟩ := literal
  obtain ⟨digits', same', _, _, rfl⟩ := literal'
  have marks := same.symm.trans same'
  rw [(List.cons.inj (List.cons.inj marks).2).2]

/-- A number that is not below zero is filled up with zeros before its digits. -/
theorem isHexLiteral_hexSpelling {value : Int} (natural : 0 ≤ value) (width : Int) :
    IsHexLiteral (Int.fdiv width 4) (hexSpelling value width) value := by
  have unsigned : Text.signOf value = [] := if_neg (Int.not_lt.mpr natural)
  have spelled := toList_hexSpelling value width
  rw [Text.padded, unsigned, List.nil_append] at spelled
  refine ⟨_, spelled, fun d member => ?_, ?_, ?_⟩
  · rcases List.mem_append.mp member with zero | digit
    · rw [List.eq_of_mem_replicate zero]
      decide
    · exact Text.isUpperHex_of_mem_hexDigits digit
  · rw [List.length_append, List.length_replicate, List.length_nil]
    omega
  · rw [Text.hexNumber_zeros, Text.hexNumber_hexDigits]
    omega

/-- A sign is no digit. -/
theorem not_isHexLiteral_hexSpelling {value : Int} (negative : value < 0) (width number : Int) :
    ¬ IsHexLiteral (Int.fdiv width 4) (hexSpelling value width) number := by
  rintro ⟨digits, same, hex, _⟩
  have sign : Text.signOf value = ['-'] := if_pos negative
  have minus : '-' ∈ digits := by
    rw [toList_hexSpelling, Text.padded, sign] at same
    rw [← (List.cons.inj (List.cons.inj same).2).2]
    exact List.mem_cons_self
  exact absurd (hex '-' minus) (by decide)

/-- The text of a number is a literal of this number and of no other, unless it has a sign. -/
theorem isHexLiteral_hexSpelling_iff {value width number : Int} :
    IsHexLiteral (Int.fdiv width 4) (hexSpelling value width) number ↔
      0 ≤ value ∧ number = value := by
  constructor
  · intro literal
    have natural : 0 ≤ value := Int.not_lt.mp fun negative =>
      not_isHexLiteral_hexSpelling negative width number literal
    exact ⟨natural, literal.unique (isHexLiteral_hexSpelling natural width)⟩
  · rintro ⟨natural, rfl⟩
    exact isHexLiteral_hexSpelling natural width

/-- A number is written as its text wherever it stands, if a text can be as wide. -/
theorem print_hexOf {value width : Int} {length : Nat}
    (known : Text.lengthOf .format (max (Int.fdiv width 4) 1) = .ok length) :
    (hexOf value width).print = Print.write (hexSpelling value width) := by
  obtain ⟨_, _, rfl⟩ := Text.lengthOf_eq_ok_iff.mp known
  have printed : (hexOf value width).print = Print.writeHex value width := rfl
  rw [printed, Print.writeHex, hexText_of_lengthOf known]
  rfl

/-! ### Numbers of a node -/

mutual

/-- The hexadecimal numbers of a node with their widths, but for the bytes of data. -/
def Node.codes : Node → List (Int × Int)
  | .arrayType element => element.codes
  | .pointerType pointee => pointee.codes
  | .literal elements => codesOf elements
  | .hexInteger value width => [(value, width)]
  | .lookup array index => array.codes ++ index.codes
  | .addressOf expression => expression.codes
  | .declarator type identifier _ _ => type.codes ++ identifier.codes
  | .assign declarator value => declarator.codes ++ value.codes
  | .sourceCode statements => codesOf statements
  | .block statements => codesOf statements
  | .root _ | .charType | .sizeType | .structType _ | .uintType _ | .bytesLiteral _ | .boolean _
  | .integer _ | .string _ | .identifier _ | .nullPointer | .inclusion _ | .comment _ => []

/-- The hexadecimal numbers of nodes with their widths. -/
def codesOf : List Node → List (Int × Int)
  | [] => []
  | node :: rest => node.codes ++ codesOf rest

end

theorem codesOf_eq_flatMap (nodes : List Node) : codesOf nodes = nodes.flatMap Node.codes := by
  induction nodes with
  | nil => rfl
  | cons node rest ih => rw [codesOf, ih, List.flatMap_cons]

theorem codesOf_append (nodes nodes' : List Node) :
    codesOf (nodes ++ nodes') = codesOf nodes ++ codesOf nodes' := by
  rw [codesOf_eq_flatMap, codesOf_eq_flatMap, codesOf_eq_flatMap, List.flatMap_append]

/-- The numbers of an array of codes are these codes. -/
theorem codesOf_map_hexOf (codes : List Int) (width : Int) :
    codesOf (codes.map fun code => hexOf code width) = codes.map fun code => (code, width) := by
  induction codes with
  | nil => rfl
  | cons code rest ih =>
    rw [List.map_cons, codesOf, ih]
    rfl

/-- Texts hold no hexadecimal numbers. -/
theorem codesOf_map_string (strings : List String) : codesOf (strings.map .string) = [] := by
  rw [codesOf_eq_flatMap, List.flatMap_map, List.flatMap_eq_nil_iff]
  exact fun _ _ => rfl

end CodecTables.Source
