import CodecTables.Files.Tree
import CodecTables.Report.Code
import CodecTables.Text.Quoted

/-!
# Faults

A fault is reported with a code, a message and, where one is known, the file that it is about.
Faults form a small hierarchy: an unequal patch and an invalid bundle are faults of loading, and an
unknown kext is a fault of compiling.
-/

namespace CodecTables.Report

open Files (Path)

/-- The categories of faults. -/
inductive Category where
  | general
  | load
  | patch (find replace : Int) (executable : String)
  | bundle
  | compile
  | inconsistency (executable : String)
  | output
deriving DecidableEq

namespace Category

/-- The code of a fault that is given none of its own. -/
def defaultCode : Category → Code
  | general => .internalError
  | load => .tableMalformed
  | patch .. => .invalidPatch
  | bundle => .invalidBundle
  | compile => .internalError
  | inconsistency _ => .unknownKext
  | output => .writeFailed

/-- The category and all wider ones, up to the general one. -/
def lineage : Category → List Category
  | general => [general]
  | load => [load, general]
  | patch find replace executable => [patch find replace executable, load, general]
  | bundle => [bundle, load, general]
  | compile => [compile, general]
  | inconsistency executable => [inconsistency executable, compile, general]
  | output => [output, general]

end Category

/-- A fault as it is reported. -/
structure Fault where
  category : Category
  message : String
  code : Code := category.defaultCode
  path : Option Path := none

namespace Fault

/-- The phase in which a fault arose. -/
def phase (f : Fault) : Phase := f.code.phase

/-- The line that reports a fault: the file, the code and the message. -/
def text (f : Fault) : String :=
  (match f.path with
    | some path => path.text ++ ": "
    | none => "") ++ f.code.text ++ ": " ++ f.message

/-- The fault of a patch whose two sides differ in length. -/
def unequalPatch (find replace : Int) (executable : String) : Fault where
  category := .patch find replace executable
  message :=
    "patch" ++ (if executable.isEmpty then "" else " for " ++ Text.quoted executable) ++ " has " ++
      Text.decimal find ++ " bytes in Find but " ++ Text.decimal replace ++
      " bytes in Replace; both must be the same"

/-- The fault of a patch for a kext that is not in the kext table. -/
def unknownKext (executable : String) : Fault where
  category := .inconsistency executable
  message := Text.quoted executable ++ " should already be registered in the kext table"

/-- The fault of a file that cannot be read. -/
def unreadable (path : Path) (reason : String) : Fault where
  category := .load
  message := "cannot read plist: " ++ reason
  code := .tableUnreadable
  path := some path

/-- A file is no property list. The cause is not told apart. -/
def malformed (path : Path) : Fault where
  category := .load
  message := "cannot decode plist: <cause>"
  code := .tableMalformed
  path := some path

/-- The fault of a bundle, with the fault of its description as the cause. -/
def invalidBundle (directory : Path) (cause : Fault) : Fault where
  category := .bundle
  message :=
    "the codec bundle at " ++ Text.quoted directory.text ++ " is not valid: " ++ cause.message
  path := cause.path

/-- The fault of a path that cannot be written to. -/
def unwritable (path : Path) (reason : String) : Fault where
  category := .output
  message := "cannot write generated source: " ++ reason
  code := .writeFailed
  path := some path

/-- A fault with the file that it is about. -/
def about (f : Fault) (path : Path) : Fault := { f with path := some path }

/-- A fault belongs to a category or to a narrower one. -/
def isA (f : Fault) (category : Category) : Bool := f.category.lineage.contains category

end Fault

/-- A failure of the work: a fault that is reported by its code, or a mishap. -/
inductive Failure where
  | fault (f : Fault)
  /-- A file name that holds the character U+0000. -/
  | nulInPath
  /-- A directory that cannot be looked at or into. -/
  | inaccessible (problem : Files.Problem) (path : Path)
  /-- A text that would be too long. -/
  | excess (e : Text.Excess)
  | interrupted
  | unexpected (message : String)

namespace Failure

/-- What the user is told about a failure. -/
def message : Failure → String
  | fault f => f.text
  | nulInPath => Files.Problem.reason .nulInPath
  | inaccessible problem path =>
    "[Errno " ++ Text.count problem.number ++ "] " ++ problem.reason ++ ": " ++
      Text.quoted path.text
  | excess e => e.message
  | interrupted => ""
  | unexpected message => message

/-- The failure, about the given file if it is a fault. -/
def about (path : Path) : Failure → Failure
  | fault f => fault (f.about path)
  | failure => failure

end Failure

end CodecTables.Report
