import CodecTables.Proofs.Source.Declared
import CodecTables.Resource.Vendor

/-!
# Forms of values

The value of a declaration has a form that is told by its type: bytes, texts, numbers, or rows with
the fields of a struct type. A field may hold the name of an array, and the type of this array is
told by the field. A declaration is admitted after others if its value has the form of its type and
each name in it is declared by one of them, with the type that its field calls for (`Admits`).
-/

namespace CodecTables.Source

open Resource (ComputerModel)

/-- What an expression looks like. -/
inductive Form where
  | boolean
  | integer
  | hexadecimal (width : Int)
  | text
  | bytes
  /-- The name of an array of elements of a type. -/
  | array (element : Node)
  /-- The name of an array, or a null pointer in its place. -/
  | optional (element : Node)
  /-- An element of the array of a struct type, by the address of the array. -/
  | place (struct : String)
  /-- The constant for a kext that is not loaded, which no source declares. -/
  | unloaded
  /-- The symbol of a computer model, which no source declares. -/
  | model
  | row (fields : List Form)
  | list (element : Form)

/-- The constant for a kext that is not loaded. -/
def unloadedName : String := "KernelPatcher::KextInfo::Unloaded"

/-- The struct types of rows, each with the forms of its fields. -/
def rowFields : List (String × List Form) :=
  [("CodecLookupInfo", [.array stringType, .integer, .integer, .boolean]),
    ("KernelPatcher::KextInfo",
      [.text, .array stringType, .integer, .row [.boolean, .boolean], .row [.boolean], .unloaded]),
    ("KextPatch",
      [.row [.place "KernelPatcher::KextInfo", .array uint8, .array uint8, .integer, .integer],
        .integer, .integer]),
    ("CodecModInfo::File", [.optional uint8, .integer, .integer, .integer, .integer]),
    ("CodecModInfo",
      [.text, .hexadecimal 16, .optional uint32, .integer,
        .array (.structType "CodecModInfo::File"), .integer,
        .array (.structType "CodecModInfo::File"), .integer,
        .array (.structType "KextPatch"), .integer]),
    ("VendorModInfo",
      [.text, .hexadecimal 16, .array (.structType "CodecModInfo"), .integer]),
    ("ControllerModInfo",
      [.text, .hexadecimal 32, .hexadecimal 32, .optional uint32, .integer, .integer,
        .model, .array (.structType "KextPatch"), .integer])]

/-- The form of the elements of an array other than of bytes, by their type. -/
def elementForm? : Node → Option Form
  | .pointerType .charType => some .text
  | .uintType bits => if bits = 32 then some (.hexadecimal 32) else none
  | .structType struct => (rowFields.lookup struct).map .row
  | _ => none

/-- The form of a value, by the type that it is declared with. -/
def valueForm? : Node → Option Form
  | .sizeType => some .integer
  | .arrayType (.uintType bits) =>
    if bits = 8 then some .bytes else (elementForm? (.uintType bits)).map .list
  | .arrayType element => (elementForm? element).map .list
  | _ => none

/-- The value of an array of known elements is a list of their form. -/
theorem valueForm?_arrayType {element : Node} {form : Form}
    (known : elementForm? element = some form) :
    valueForm? (.arrayType element) = some (.list form) := by
  cases element with
  | uintType bits =>
    by_cases same : bits = 32
    · subst same
      simpa [valueForm?] using known
    · simp [elementForm?, same] at known
  | _ => simp [valueForm?, known]

/-- The elements of an array of bytes have no form of their own. -/
theorem ne_uint8_of_elementForm? {element : Node} (known : (elementForm? element).isSome) :
    element ≠ uint8 := by
  rintro rfl
  exact Bool.noConfusion known

mutual

/-- The expression is of a form, where names stand for arrays that are declared with the type of
their elements. -/
def Form.Fits (declared : String → Node → Prop) : Form → Node → Prop
  | .boolean, node => ∃ value, node = .boolean value
  | .integer, node => ∃ value, node = .integer value
  | .hexadecimal width, node => ∃ value, node = .hexInteger value width
  | .text, node => ∃ content, node = .string content
  | .bytes, node => ∃ data, node = bytesOf data
  | .array element, node => ∃ name, declared name element ∧ node = .identifier name
  | .optional element, node =>
    node = .nullPointer ∨ ∃ name, declared name element ∧ node = .identifier name
  | .place struct, node => ∃ name index, declared name (.structType struct) ∧
    node = .lookup (.addressOf (.identifier name)) (.integer index)
  | .unloaded, node => node = .identifier unloadedName
  | .model, node => ∃ model : ComputerModel, node = .identifier model.symbol
  | .row fields, node => ∃ nodes, node = .literal nodes ∧ FitEach declared fields nodes
  | .list element, node => ∃ nodes, node = .literal nodes ∧ ∀ n ∈ nodes, element.Fits declared n

/-- The expressions are of the forms, one by one. -/
def FitEach (declared : String → Node → Prop) : List Form → List Node → Prop
  | [], nodes => nodes = []
  | form :: forms, nodes => ∃ node rest, nodes = node :: rest ∧ form.Fits declared node ∧
    FitEach declared forms rest

end

/-- A row of expressions has the forms of its fields if each has its own. -/
theorem fitEach_cons {declared : String → Node → Prop} {form : Form} {forms : List Form}
    {node : Node} {nodes : List Node} :
    FitEach declared (form :: forms) (node :: nodes) ↔
      form.Fits declared node ∧ FitEach declared forms nodes := by
  constructor
  · rintro ⟨_, _, same, first, later⟩
    obtain ⟨rfl, rfl⟩ := List.cons.inj same
    exact ⟨first, later⟩
  · rintro ⟨first, later⟩
    exact ⟨node, nodes, rfl, first, later⟩

theorem fitEach_nil {declared : String → Node → Prop} : FitEach declared [] [] := rfl

section Mono

variable {declared declared' : String → Node → Prop}

mutual

/-- An expression keeps its form where more is declared. -/
theorem Form.Fits.mono (within : ∀ name element, declared name element → declared' name element)
    {form : Form} {node : Node} (fits : form.Fits declared node) : form.Fits declared' node := by
  cases form with
  | boolean | integer | hexadecimal | text | bytes | unloaded | model => exact fits
  | array element =>
    obtain ⟨name, known, same⟩ := fits
    exact ⟨name, within name element known, same⟩
  | optional element =>
    rcases fits with absent | ⟨name, known, same⟩
    · exact .inl absent
    · exact .inr ⟨name, within name element known, same⟩
  | place struct =>
    obtain ⟨name, index, known, same⟩ := fits
    exact ⟨name, index, within name _ known, same⟩
  | row fields =>
    obtain ⟨nodes, same, each⟩ := fits
    exact ⟨nodes, same, FitEach.mono within each⟩
  | list element =>
    obtain ⟨nodes, same, each⟩ := fits
    exact ⟨nodes, same, fun n member => (each n member).mono within⟩

theorem FitEach.mono (within : ∀ name element, declared name element → declared' name element)
    {forms : List Form} {nodes : List Node} (fits : FitEach declared forms nodes) :
    FitEach declared' forms nodes := by
  cases forms with
  | nil => exact fits
  | cons form forms =>
    obtain ⟨node, rest, same, first, later⟩ := fits
    exact ⟨node, rest, same, first.mono within, FitEach.mono within later⟩

end

end Mono

/-! ### Names in values -/

mutual

/-- The names that occur anywhere in a node, in their order. -/
def Node.identifiers : Node → List String
  | .identifier name => [name]
  | .arrayType element => element.identifiers
  | .pointerType pointee => pointee.identifiers
  | .literal elements => identifiersOf elements
  | .bytesLiteral elements => identifiersOf elements
  | .lookup array index => array.identifiers ++ index.identifiers
  | .addressOf expression => expression.identifiers
  | .declarator type identifier _ _ => type.identifiers ++ identifier.identifiers
  | .assign declarator value => declarator.identifiers ++ value.identifiers
  | .sourceCode statements => identifiersOf statements
  | .block statements => identifiersOf statements
  | _ => []

/-- The names in nodes, in order. -/
def identifiersOf : List Node → List String
  | [] => []
  | node :: rest => node.identifiers ++ identifiersOf rest

end

theorem identifiersOf_eq_flatMap (nodes : List Node) :
    identifiersOf nodes = nodes.flatMap Node.identifiers := by
  induction nodes with
  | nil => rfl
  | cons node rest ih => rw [identifiersOf, ih, List.flatMap_cons]

/-- The names in two rows of nodes are those of the first and of the second. -/
theorem identifiersOf_append (nodes nodes' : List Node) :
    identifiersOf (nodes ++ nodes') = identifiersOf nodes ++ identifiersOf nodes' := by
  rw [identifiersOf_eq_flatMap, identifiersOf_eq_flatMap, identifiersOf_eq_flatMap,
    List.flatMap_append]

/-- The names in the value of a statement. -/
def Node.uses (statement : Node) : List String := (statement.value?.map Node.identifiers).getD []

/-- The names in the values of a source. -/
def usedNames (source : List Node) : List String := source.flatMap Node.uses

/-- No source declares the name: it stands for a kext that is not loaded or a computer model. -/
def Foreign (name : String) : Prop :=
  name = unloadedName ∨ ∃ model : ComputerModel, name = model.symbol

theorem identifiers_bytesOf (data : List UInt8) : (bytesOf data).identifiers = [] := by
  unfold bytesOf Node.identifiers
  rw [identifiersOf_eq_flatMap, List.flatMap_map, List.flatMap_eq_nil_iff]
  exact fun _ _ => rfl

section Names

variable {declared : String → Node → Prop} {name : String}

mutual

/-- Each name in an expression of some form is declared, or is one that no source declares. -/
theorem Form.Fits.declared_of_mem {form : Form} {node : Node} (fits : form.Fits declared node)
    (member : name ∈ node.identifiers) : (∃ element, declared name element) ∨ Foreign name := by
  cases form with
  | boolean | integer | hexadecimal | text =>
    obtain ⟨_, rfl⟩ := fits
    exact absurd member List.not_mem_nil
  | bytes =>
    obtain ⟨data, rfl⟩ := fits
    rw [identifiers_bytesOf] at member
    exact absurd member List.not_mem_nil
  | array element =>
    obtain ⟨other, known, rfl⟩ := fits
    rw [List.mem_singleton.mp member]
    exact .inl ⟨element, known⟩
  | optional element =>
    rcases fits with rfl | ⟨other, known, rfl⟩
    · exact absurd member List.not_mem_nil
    · rw [List.mem_singleton.mp member]
      exact .inl ⟨element, known⟩
  | place struct =>
    obtain ⟨other, index, known, rfl⟩ := fits
    rw [List.mem_singleton.mp member]
    exact .inl ⟨_, known⟩
  | unloaded =>
    rw [show node = _ from fits] at member
    exact .inr (.inl (List.mem_singleton.mp member))
  | model =>
    obtain ⟨model, rfl⟩ := fits
    exact .inr (.inr ⟨model, List.mem_singleton.mp member⟩)
  | row fields =>
    obtain ⟨nodes, rfl, each⟩ := fits
    exact FitEach.declared_of_mem each member
  | list element =>
    obtain ⟨nodes, rfl, each⟩ := fits
    rw [Node.identifiers, identifiersOf_eq_flatMap] at member
    obtain ⟨n, listed, inside⟩ := List.mem_flatMap.mp member
    exact (each n listed).declared_of_mem inside

/-- A name in nodes that have a form is declared, or foreign. -/
theorem FitEach.declared_of_mem {forms : List Form} {nodes : List Node}
    (fits : FitEach declared forms nodes) (member : name ∈ identifiersOf nodes) :
    (∃ element, declared name element) ∨ Foreign name := by
  cases forms with
  | nil =>
    rw [show nodes = [] from fits] at member
    exact absurd member List.not_mem_nil
  | cons form forms =>
    obtain ⟨node, rest, rfl, first, later⟩ := fits
    rcases List.mem_append.mp member with here | there
    · exact first.declared_of_mem here
    · exact FitEach.declared_of_mem later there

end

end Names

/-! ### Declarations one after the other -/

/-- The source declares the name as an array of elements of the type. -/
def Declares (source : List Node) (name : String) (element : Node) : Prop :=
  ∃ isStatic isConstant value,
    .assign (.declarator (.arrayType element) (.identifier name) isStatic isConstant) value ∈ source

/-- The statement may stand after a source: it is a comment of one line, or a declaration with a
value of the form of its type in which each name is declared by the source. -/
def Admits (source : List Node) : Node → Prop
  | .comment text => ∃ line, text = line ++ "\n" ∧ '\n' ∉ line.toList
  | .assign (.declarator type (.identifier _) _ _) value =>
    ∃ form, valueForm? type = some form ∧ form.Fits (Declares source) value
  | _ => False

/-- Each of the statements may stand where it does after a source. -/
def InTurn (source : List Node) : List Node → Prop
  | [] => True
  | statement :: rest => Admits source statement ∧ InTurn (source ++ [statement]) rest

theorem inTurn_append {source added added' : List Node} :
    InTurn source (added ++ added') ↔ InTurn source added ∧ InTurn (source ++ added) added' := by
  induction added generalizing source with
  | nil => simp [InTurn]
  | cons statement rest ih => simp [InTurn, ih, and_assoc]

theorem inTurn_singleton {source : List Node} {statement : Node} :
    InTurn source [statement] ↔ Admits source statement := by
  simp [InTurn]

/-- A statement may stand after all that comes before it. -/
theorem InTurn.admits {source earlier later : List Node} {statement : Node}
    (inTurn : InTurn source (earlier ++ statement :: later)) :
    Admits (source ++ earlier) statement :=
  (inTurn_append.mp inTurn).2.1

/-- A statement of a source is of its opening, or may stand after all that comes before it. -/
theorem InTurn.mem_or_admits {opening added earlier later : List Node} {statement : Node}
    (inTurn : InTurn opening added) (split : opening ++ added = earlier ++ statement :: later) :
    statement ∈ opening ∨ Admits earlier statement := by
  rcases List.append_eq_append_iff.mp split with ⟨front, same, rest⟩ | ⟨front, same, rest⟩
  · subst same rest
    exact .inr inTurn.admits
  · cases front with
    | nil =>
      rw [List.append_nil] at same
      subst same
      rw [List.nil_append] at rest
      subst rest
      exact .inr inTurn.1
    | cons first front =>
      rw [List.cons_append, List.cons.injEq] at rest
      rw [same, rest.1]
      exact .inl (List.mem_append_right _ List.mem_cons_self)

theorem Declares.mono {source source' : List Node} (within : source ⊆ source') {name : String}
    {element : Node} (declared : Declares source name element) : Declares source' name element := by
  obtain ⟨isStatic, isConstant, value, member⟩ := declared
  exact ⟨isStatic, isConstant, value, within member⟩

/-- What a source declares is declared by one of its statements. -/
theorem Declares.exists_mem {source : List Node} {name : String} {element : Node}
    (declared : Declares source name element) :
    ∃ statement ∈ source, statement.declares? = some name := by
  obtain ⟨isStatic, isConstant, value, member⟩ := declared
  exact ⟨_, member, rfl⟩

/-- The names in the value of a declaration that may stand after a source are declared by it. -/
theorem Admits.declared_of_mem {source : List Node} {statement : Node} {name : String}
    (admits : Admits source statement) (member : name ∈ statement.uses) :
    Foreign name ∨ ∃ declaration ∈ source, declaration.declares? = some name := by
  unfold Admits at admits
  split at admits
  · exact absurd member List.not_mem_nil
  · obtain ⟨form, _, fits⟩ := admits
    rcases fits.declared_of_mem member with ⟨_, declared⟩ | foreign
    · exact .inr declared.exists_mem
    · exact .inl foreign
  · exact admits.elim

/-- An assignment that may stand after a source declares a name with a value of the form of its
type. -/
theorem Admits.of_assign {source : List Node} {declarator value : Node}
    (admits : Admits source (.assign declarator value)) :
    ∃ type name isStatic isConstant form,
      declarator = .declarator type (.identifier name) isStatic isConstant ∧
        valueForm? type = some form ∧ form.Fits (Declares source) value := by
  unfold Admits at admits
  split at admits
  next same => exact nomatch same
  next same =>
    obtain ⟨rfl, rfl⟩ := Node.assign.inj same
    obtain ⟨form, known, fits⟩ := admits
    exact ⟨_, _, _, _, form, rfl, known, fits⟩
  · exact admits.elim

end CodecTables.Source
