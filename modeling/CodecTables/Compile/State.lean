import CodecTables.Compile.NameSupply
import CodecTables.Data.Sha256
import CodecTables.Report.Fault
import CodecTables.Report.Log
import CodecTables.Resource.Entity
import CodecTables.Source.Constant
import CodecTables.Source.TypeTable

/-!
# The state of compiling

Compiling adds statements to a source and keeps what later entities refer to: the buffers that are
there already, the places of the kexts, and the directory of the bundle at hand. A step that stops
leaves the state as it was at that moment.
-/

namespace CodecTables.Compile

open Files (Path)
open Plist (Scalar)
open Report (Failure Record)
open Source (Node TypeTable)

/-- The tables of struct types at hand: the caller's, if there is one, and the compiler's own. -/
structure TypeTables where
  given : Option TypeTable
  own : TypeTable
  usesGiven : Bool

namespace TypeTables

/-- A caller's table is used if it has a type in it; an empty one is left alone. -/
def start (given : Option TypeTable) : TypeTables :=
  ⟨given, .empty, given.any fun table => table.size != 0⟩

/-- The table in use. -/
def current (tables : TypeTables) : TypeTable :=
  if tables.usesGiven then tables.given.getD .empty else tables.own

/-- Notes the use of a struct type in the table in use. -/
def use (tables : TypeTables) (name : String) : TypeTables :=
  if tables.usesGiven then { tables with given := tables.given.map (·.use name) }
  else { tables with own := tables.own.use name }

end TypeTables

/-- The name of the kext table, unless another one is set. -/
def defaultKextTable : String := "ADDPR(kextTable)"

/-- What compiling keeps from entity to entity. -/
structure State where
  /-- The source so far. -/
  statements : List Node
  types : TypeTables
  names : NameSupply
  /-- The array that holds the bytes with a digest. -/
  buffers : List (String × String)
  /-- The place of a kext in the kext table, by its name or its bundle identifier. -/
  kexts : List (Scalar × Nat)
  kextTable : String
  /-- The directory of the bundle at hand, where files are looked for. -/
  directory : Path
  log : List Record

/-- The state before the first entity. -/
def State.start (statements : List Node) (types : TypeTables) (names : NameSupply) : State where
  statements := statements
  types := types
  names := names
  buffers := []
  kexts := []
  kextTable := defaultKextTable
  directory := .here
  log := []

/-- Why a compilation stops. -/
inductive Stop where
  /-- A patch is for a kext that the kext table does not hold. -/
  | unknownKext (executable : String)
  /-- The path of a file holds the character U+0000. -/
  | nulInPath
deriving DecidableEq

/-- The failure that reports why compiling stopped. -/
def Stop.failure : Stop → Failure
  | unknownKext executable => .fault (.unknownKext executable)
  | nulInPath => .nulInPath

/-- A step of the compiler, which may stop; what it wrote until then stays. -/
abbrev Step := ExceptT Stop (StateM State)

/-- Adds a statement to the source. -/
def emit (statement : Node) : Step Unit :=
  modify fun s => { s with statements := s.statements ++ [statement] }

/-- Takes a name that no other request of the stem gets. -/
def fresh (stem : String) : Step String :=
  modifyGet fun s =>
    let (name, names) := s.names.next stem
    (name, { s with names := names })

/-- The type of the arrays of a struct type, which is in use from now on. -/
def structArray (name : String) : Step Node :=
  modifyGet fun s => (Source.structArray name, { s with types := s.types.use name })

/-- Warns of something that does not stop the work. -/
def warn (message : String) : Step Unit :=
  modify fun s => { s with log := s.log ++ [⟨.warning, .compiler, message⟩] }

/-- A way to store bytes in the source: the name of an array that holds the given bytes, where a new
array is named after the given stem. -/
abbrev Storage := List UInt8 → String → Step String

/-- The array that holds the given bytes. There is one array for each digest, named when its bytes
are first met. -/
def buffer : Storage := fun data stem => do
  let digest := Data.Sha256.hexDigest data
  match (← get).buffers.lookup digest with
  | some name => return name
  | none =>
    let name ← fresh stem
    emit (.declareStaticConst Source.byteArray name (Source.bytesOf data))
    modify fun s => { s with buffers := s.buffers ++ [(digest, name)] }
    return name

/-- Declares an array of texts and gives its name. -/
def stringArray (stem : String) (strings : List String) : Step String := do
  let name ← fresh stem
  emit (.declareStaticConst Source.stringArray name (.literal (strings.map .string)))
  return name

end CodecTables.Compile
