import CodecTables.Decode.Tables
import CodecTables.Files.Tree
import CodecTables.Generate.Settings
import CodecTables.Plist.Document

/-!
# Tables of a resource directory

A resource directory holds three tables, each in a property list file. Whatever keeps a table from
being loaded is a fault about its file: that it cannot be read, that it is no property list, or that
the list does not describe the table. Only a place that cannot be named is a failure of its own.
-/

namespace CodecTables.Directory

open Decode (Refusal)
open Files (Path Tree)
open Generate (Settings)
open Plist (Value)
open Report (Failure Fault)
open Resource

variable {α : Type}

/-- Reads a property list file. A path with the character U+0000 counts as malformed. -/
def readList (files : Tree) (path : Path) : Except Fault Value :=
  match files.read path with
  | .error .nulInPath => .error (.malformed path)
  | .error problem => .error (.unreadable path problem.reason)
  | .ok bytes =>
    match Plist.read? bytes with
    | some value => .ok value
    | none => .error (.malformed path)

/-- Reads and decodes a table; a refusal names the file. -/
def load (decode : Value → Except Refusal α) (files : Tree) (path : Path) :
    Except Failure α := do
  match decode (← (readList files path).mapError .fault) with
  | .ok content => return content
  | .error refusal => throw (refusal.failure.about path)

/-- The three tables of a resource directory. -/
structure Tables where
  lookup : List LookupEntry
  kexts : KextTable
  controllers : List Controller

/-- Loads the tables. The first that cannot be loaded is reported; the kexts come last. -/
def Tables.load (files : Tree) (directory : Path) (settings : Settings) :
    Except Failure Tables := do
  let file (name : String) := directory.join (.ofString name)
  let lookup ← Directory.load Decode.lookupTable files (file settings.codecLookupFile)
  let controllers ← Directory.load Decode.controllerTable files (file settings.controllersFile)
  let kexts ← Directory.load Decode.kextTable files (file settings.kextsFile)
  return ⟨lookup, kexts, controllers⟩

end CodecTables.Directory
