import CodecTables.Proofs.Source.Declared

/-!
# Names replaced by what they stand for

The statements of two sources may differ in the names of their arrays of bytes only. They are
compared with each such name replaced by the bytes that it stands for.
-/

namespace CodecTables.Source

/-- What names stand for. -/
abbrev Meaning := String → Option Node

mutual

/-- The node with each name in an expression replaced by what it stands for. -/
def Node.inline (meaning : Meaning) : Node → Node
  | .identifier name => (meaning name).getD (.identifier name)
  | .literal elements => .literal (inlineAll meaning elements)
  | .lookup array index => .lookup (array.inline meaning) (index.inline meaning)
  | .addressOf expression => .addressOf (expression.inline meaning)
  | .assign declarator value => .assign declarator (value.inline meaning)
  | node => node

/-- Nodes with each name in an expression replaced by what it stands for. -/
def inlineAll (meaning : Meaning) : List Node → List Node
  | [] => []
  | node :: rest => node.inline meaning :: inlineAll meaning rest

end

/-- Nodes are replaced in one by one. -/
theorem inlineAll_eq_map (meaning : Meaning) (nodes : List Node) :
    inlineAll meaning nodes = nodes.map (Node.inline meaning) := by
  induction nodes with
  | nil => rfl
  | cons node rest ih => rw [inlineAll, ih, List.map_cons]

/-- A name is replaced by what it stands for, if it stands for anything. -/
theorem Node.inline_identifier (meaning : Meaning) (name : String) :
    (Node.identifier name).inline meaning = (meaning name).getD (.identifier name) := rfl

/-- The elements of a literal are replaced in. -/
@[simp] theorem Node.inline_literal (meaning : Meaning) (elements : List Node) :
    (Node.literal elements).inline meaning = .literal (elements.map (Node.inline meaning)) := by
  rw [Node.inline, inlineAll_eq_map]

/-- The array and the index of an access are replaced in. -/
@[simp] theorem Node.inline_lookup (meaning : Meaning) (array index : Node) :
    (Node.lookup array index).inline meaning =
      .lookup (array.inline meaning) (index.inline meaning) := rfl

/-- The expression behind an address is replaced in. -/
@[simp] theorem Node.inline_addressOf (meaning : Meaning) (expression : Node) :
    (Node.addressOf expression).inline meaning = .addressOf (expression.inline meaning) := rfl

/-- The value of an assignment is replaced in, and not what it declares. -/
@[simp] theorem Node.inline_assign (meaning : Meaning) (declarator value : Node) :
    (Node.assign declarator value).inline meaning = .assign declarator (value.inline meaning) := rfl

@[simp] theorem Node.inline_boolean (meaning : Meaning) (value : Bool) :
    (Node.boolean value).inline meaning = .boolean value := rfl

@[simp] theorem Node.inline_integer (meaning : Meaning) (value : Int) :
    (Node.integer value).inline meaning = .integer value := rfl

@[simp] theorem Node.inline_hexInteger (meaning : Meaning) (value width : Int) :
    (Node.hexInteger value width).inline meaning = .hexInteger value width := rfl

@[simp] theorem Node.inline_string (meaning : Meaning) (content : String) :
    (Node.string content).inline meaning = .string content := rfl

@[simp] theorem Node.inline_nullPointer (meaning : Meaning) :
    Node.nullPointer.inline meaning = .nullPointer := rfl

/-- A name that stands for nothing stays. -/
theorem Node.inline_of_none {meaning : Meaning} {name : String} (none : meaning name = none) :
    (Node.identifier name).inline meaning = .identifier name := by
  rw [inline_identifier, none, Option.getD_none]

/-- The bytes that the names of arrays of bytes stand for in a source. -/
def bytesNamed (source : List Node) : Meaning := fun name =>
  (byteArrays source).findSome? fun statement =>
    if statement.declares? = some name then statement.value? else none

/-- A name that stands for bytes is declared by an array of bytes. -/
theorem exists_of_bytesNamed {source : List Node} {name : String} {value : Node}
    (found : bytesNamed source name = some value) : ∃ statement ∈ byteArrays source,
      statement.declares? = some name ∧ statement.value? = some value := by
  obtain ⟨statement, listed, valued⟩ := List.exists_of_findSome?_eq_some found
  by_cases declared : statement.declares? = some name
  · rw [if_pos declared] at valued
    exact ⟨statement, listed, declared, valued⟩
  · rw [if_neg declared] at valued
    cases valued

/-- The name of a declared array of bytes stands for bytes. -/
theorem isSome_bytesNamed {source : List Node} {data : List UInt8} {name : String}
    (declared : declareBytes data name ∈ source) : (bytesNamed source name).isSome := by
  refine List.findSome?_isSome_iff.mpr ⟨_, List.mem_filter.mpr ⟨declared, rfl⟩, ?_⟩
  rw [if_pos (show (declareBytes data name).declares? = some name from rfl)]
  rfl

/-- All statements of a source but its arrays of bytes. -/
def otherStatements (source : List Node) : List Node := source.filter fun node => !node.isByteArray

/-- The other statements of two sources are those of the first and of the second. -/
theorem otherStatements_append (source source' : List Node) :
    otherStatements (source ++ source') = otherStatements source ++ otherStatements source' :=
  List.filter_append _ _

/-- A declaration of bytes is not among the other statements. -/
theorem otherStatements_declareBytes (source : List Node) (data : List UInt8) (name : String) :
    otherStatements (source ++ [declareBytes data name]) = otherStatements source :=
  (otherStatements_append _ _).trans (List.append_nil _)

/-- A statement that declares no bytes is among the other statements. -/
theorem otherStatements_singleton {statement : Node} (other : statement.isByteArray = false) :
    otherStatements [statement] = [statement] := by
  rw [otherStatements, List.filter_cons_of_pos (by simp [other]), List.filter_nil]

end CodecTables.Source
