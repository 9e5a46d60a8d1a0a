import CodecTables.Plist.Value
import CodecTables.Source.Node

/-!
# Constants of a source

The literals for plain values: booleans, integers, strings and data. Data becomes a literal of
bytes, each a hexadecimal number of eight bits.
-/

namespace CodecTables.Source

/-- A value that may stand for a constant. -/
inductive Constant where
  | value (v : Plist.Value)
  | bytes (data : List UInt8)
  | node (n : Node)

/-- The literal of a row of bytes. -/
def bytesOf (data : List UInt8) : Node :=
  .bytesLiteral (data.map fun b => .hexInteger b.toNat Node.defaultWidth)

/-- The literal of a number in hexadecimal of a width in bits. -/
def hexOf (value width : Int) : Node := .hexInteger value width

/-- The literal of a constant; an expression stands for itself. Other values have none, and the
word for their kind is given instead. -/
def Constant.literal? : Constant → Except String Node
  | value (.scalar (.bool b)) => .ok (.boolean b)
  | value (.scalar (.int n)) => .ok (.integer n)
  | value (.scalar (.string s)) => .ok (.string s)
  | value (.scalar (.data data)) => .ok (bytesOf data)
  | value v => .error v.kind.word
  | bytes data => .ok (bytesOf data)
  | node n => if n.isExpression then .ok n else .error n.className

/-- What is said of a kind of value that has no literal. -/
def noLiteralMessage (word : String) : String := "no literal form for " ++ word

end CodecTables.Source
