import CodecTables.Text.Numeral

/-!
# Syntax of generated sources

The constructs of the generated C++ text: types, expressions, declarations and statements, and
sequences of statements. The roots of these classes are nodes as well; they have no text of their
own.
-/

namespace CodecTables.Source

/-- The classes of nodes that have no form of their own. -/
inductive Root where
  | node
  | expression
  | statement
  | type
deriving DecidableEq, Repr

/-- The name of the class of a bare node. -/
def Root.className : Root → String
  | node => "Node"
  | expression => "Expression"
  | statement => "Statement"
  | type => "Type"

/-- The syntax trees of the source: types, expressions, statements, and bare nodes of no form. -/
inductive Node where
  | root (r : Root)
  | arrayType (element : Node)
  | charType
  | pointerType (pointee : Node)
  | sizeType
  | structType (name : String)
  | uintType (bits : Int)
  | literal (elements : List Node)
  | bytesLiteral (elements : List Node)
  | boolean (value : Bool)
  | integer (value : Int)
  | hexInteger (value width : Int)
  | string (content : String)
  | identifier (name : String)
  | lookup (array index : Node)
  | addressOf (expression : Node)
  | nullPointer
  | declarator (type identifier : Node) (isStatic isConstant : Bool)
  | assign (declarator value : Node)
  | inclusion (header : String)
  | comment (content : String)
  | sourceCode (statements : List Node)
  | block (statements : List Node)

namespace Node

instance : Inhabited Node := ⟨nullPointer⟩

/-- The width of a hexadecimal number in bits, where none is given. -/
def defaultWidth : Int := 8

/-- The name of the class of a node. -/
def className : Node → String
  | root r => r.className
  | arrayType _ => "ArrayType"
  | charType => "CharType"
  | pointerType _ => "PointerType"
  | sizeType => "SizeType"
  | structType _ => "StructType"
  | uintType _ => "UIntType"
  | literal _ => "Literal"
  | bytesLiteral _ => "BytesLiteral"
  | boolean _ => "BooleanLiteral"
  | integer _ => "IntegerLiteral"
  | hexInteger _ _ => "HexadecimalIntegerLiteral"
  | string _ => "StringLiteral"
  | identifier _ => "Identifier"
  | lookup _ _ => "ArrayLookup"
  | addressOf _ => "AddressOf"
  | nullPointer => "NullPointer"
  | declarator _ _ _ _ => "Variable"
  | assign _ _ => "Assign"
  | inclusion _ => "Include"
  | comment _ => "CommentLine"
  | sourceCode _ => "SourceCode"
  | block _ => "Block"

/-- The name of the rule that serves a node, or the root class that has none. -/
def rule : Node → Except Root String
  | root r => .error r
  | arrayType _ => .ok "array_type"
  | charType => .ok "char_type"
  | pointerType _ => .ok "pointer_type"
  | sizeType => .ok "size_type"
  | structType _ => .ok "struct_type"
  | uintType _ => .ok "uint_type"
  | literal _ => .ok "literal"
  | bytesLiteral _ => .ok "bytes_literal"
  | boolean _ => .ok "boolean_literal"
  | integer _ => .ok "integer_literal"
  | hexInteger _ _ => .ok "hexadecimal_integer_literal"
  | string _ => .ok "string_literal"
  | identifier _ => .ok "identifier"
  | lookup _ _ => .ok "array_lookup"
  | addressOf _ => .ok "address_of"
  | nullPointer => .ok "null_pointer"
  | declarator _ _ _ _ => .ok "variable"
  | assign _ _ => .ok "assign"
  | inclusion _ => .ok "include"
  | comment _ => .ok "comment_line"
  | sourceCode _ => .ok "source_code"
  | block _ => .ok "block"

/-- A node is an expression. -/
def isExpression : Node → Bool
  | root r => r == .expression
  | literal _ | bytesLiteral _ | boolean _ | integer _ | hexInteger _ _ | string _
  | identifier _ | lookup _ _ | addressOf _ | nullPointer => true
  | _ => false

/-- The parts of a node that can be picked by their places. -/
def parts? : Node → Option (List Node)
  | literal elements | bytesLiteral elements => some elements
  | sourceCode statements | block statements => some statements
  | _ => none

/-- The class of a sequence of statements, whose parts are a list that can grow. -/
def isSequence : Node → Bool
  | sourceCode _ | block _ => true
  | _ => false

/-- A declarator of a plain name. -/
def named (type : Node) (name : String) : Node := declarator type (identifier name) false false

/-- A declarator made static; other nodes stay. -/
def makeStatic : Node → Node
  | declarator type declared _ isConstant => declarator type declared true isConstant
  | node => node

/-- A declarator made constant; other nodes stay. -/
def makeConstant : Node → Node
  | declarator type declared isStatic _ => declarator type declared isStatic true
  | node => node

/-- The declaration of a name with a value. -/
def declare (type : Node) (name : String) (value : Node) : Node := assign (named type name) value

/-- The static declaration of a name with a value. -/
def declareStatic (type : Node) (name : String) (value : Node) : Node :=
  assign (named type name).makeStatic value

/-- The constant declaration of a name with a value. -/
def declareConst (type : Node) (name : String) (value : Node) : Node :=
  assign (named type name).makeConstant value

/-- The static and constant declaration of a name with a value. -/
def declareStaticConst (type : Node) (name : String) (value : Node) : Node :=
  assign (named type name).makeStatic.makeConstant value

mutual

/-- Equality by class and parts. Sequences of statements and root classes are told apart by
identity, so that two that were built apart differ. -/
def same : Node → Node → Bool
  | arrayType a, arrayType b => same a b
  | charType, charType => true
  | pointerType a, pointerType b => same a b
  | sizeType, sizeType => true
  | structType a, structType b => a == b
  | uintType a, uintType b => a == b
  | literal as, literal bs => sameAll as bs
  | bytesLiteral as, bytesLiteral bs => sameAll as bs
  | boolean a, boolean b => a == b
  | integer a, integer b => a == b
  | hexInteger a v, hexInteger b w => a == b && v == w
  | string a, string b => a == b
  | identifier a, identifier b => a == b
  | lookup a i, lookup b j => same a b && same i j
  | addressOf a, addressOf b => same a b
  | nullPointer, nullPointer => true
  | declarator t i s c, declarator t' i' s' c' => same t t' && same i i' && s == s' && c == c'
  | assign d v, assign d' v' => same d d' && same v v'
  | inclusion a, inclusion b => a == b
  | comment a, comment b => a == b
  | _, _ => false

/-- Equality of lists of nodes, place by place. -/
def sameAll : List Node → List Node → Bool
  | [], [] => true
  | a :: as, b :: bs => same a b && sameAll as bs
  | _, _ => false

end

end Node

end CodecTables.Source
