import CodecTables.Source.Escape
import CodecTables.Source.Node
import CodecTables.Source.Writer

/-!
# The text of a node

Printing writes a node's text at the end of a writer. It stops at a node of a root class, which has
no text, and at an integer whose text would be too long; what was written before stays, and every
block of indentation is left again.
-/

namespace CodecTables.Source

/-- Why a node has no text. -/
inductive Unprintable where
  | root (r : Root)
  | excess (e : Text.Excess)

/-- What is said of a bare node, which has no form in the source. -/
def Root.message (r : Root) : String := r.className ++ " does not implement accept()"

/-- Why a node has no text. -/
def Unprintable.message : Unprintable → String
  | root r => r.message
  | excess e => e.message

/-- A step of printing, which changes the writer and may stop. -/
abbrev Print := ExceptT Unprintable (StateM Writer)

namespace Print

/-- Writes a text. -/
def write (s : String) : Print Unit := modify (·.write s)

/-- Writes a text and ends the line. -/
def writeLine (s : String) : Print Unit := modify (·.writeLine s)

/-- Writes an integer with words around it. -/
def writeInteger (before : String) (n : Int) (behind : String) : Print Unit :=
  match Text.decimal? n with
  | .ok text => write (before ++ text ++ behind)
  | .error e => throw (.excess e)

/-- Prints one level deeper. The level is left however the inner step ends. -/
def indented (inner : Print Unit) : Print Unit := fun w =>
  let (result, w) := inner w.indent
  (result, w.outdent)

end Print

/-- The number of elements on a line of a literal of bytes. -/
def bytesPerLine : Nat := 16

/-- The text of a hexadecimal number with a digit for every four bits of its width, and at least
one; a sign counts as a digit. -/
def hexText (value width : Int) : Except Text.Excess String := do
  let length ← Text.lengthOf .format (max (Int.fdiv width 4) 1)
  return "0x" ++ String.ofList (Text.padded Text.hexDigits length value)

/-- Writes a number in hexadecimal of a width in bits. -/
def Print.writeHex (value width : Int) : Print Unit :=
  match hexText value width with
  | .ok text => write text
  | .error e => throw (.excess e)

/-- The marks after the name of a declared variable. -/
def declaratorMarks : Node → String
  | .arrayType _ => "[]"
  | _ => ""

open Print

mutual

/-- Prints a node by its form. -/
def Node.print : Node → Print Unit
  | .root r => throw (.root r)
  | .arrayType element => element.print
  | .charType => write "char"
  | .pointerType pointee => do
    pointee.print
    write "*"
  | .sizeType => write "size_t"
  | .structType name => write name
  | .uintType bits => writeInteger "uint" bits "_t"
  | .literal elements => do
    writeLine "\x7b"
    indented (printLines elements)
    writeLine ""
    write "\x7d"
  | .bytesLiteral elements => do
    writeLine "\x7b"
    indented (printRows 0 elements)
    writeLine ""
    write "\x7d"
  | .boolean value => write (if value then "true" else "false")
  | .integer value => writeInteger "" value ""
  | .hexInteger value width => writeHex value width
  | .string content => write ("\"" ++ escape content ++ "\"")
  | .identifier name => write name
  | .lookup array index => do
    array.print
    write "["
    index.print
    write "]"
  | .addressOf expression => do
    write "&"
    expression.print
  | .nullPointer => write "nullptr"
  | .declarator type identifier isStatic isConstant => do
    if isStatic then write "static "
    if isConstant then write "const "
    type.print
    write " "
    identifier.print
    write (declaratorMarks type)
  | .assign declarator value => do
    declarator.print
    write " = "
    value.print
    writeLine ";"
    writeLine ""
  | .inclusion header => do
    writeLine ("#include \"" ++ header ++ "\"")
    writeLine ""
  | .comment content => do
    write "// "
    writeLine content
  | .sourceCode statements => printAll statements
  | .block statements => printAll statements

/-- Prints nodes one after the other. -/
def printAll : List Node → Print Unit
  | [] => pure ()
  | node :: rest => do
    node.print
    printAll rest

/-- Prints the elements of a literal, each on its line, with commas between them. -/
def printLines : List Node → Print Unit
  | [] => pure ()
  | node :: rest => do
    node.print
    if !rest.isEmpty then writeLine ","
    printLines rest

/-- Prints the elements of a literal of bytes, with commas between them and a line break in the
place of a blank where a row is full. -/
def printRows (place : Nat) : List Node → Print Unit
  | [] => pure ()
  | node :: rest => do
    node.print
    if !rest.isEmpty then
      if (place + 1) % bytesPerLine = 0 then writeLine "," else write ", "
    printRows (place + 1) rest

end

/-- The text of a node by itself, or why it has none. -/
def Node.render (unit : String) (node : Node) : Except Unprintable String :=
  match node.print (Writer.start unit) with
  | (.ok _, w) => .ok w.text
  | (.error reason, _) => .error reason

end CodecTables.Source
