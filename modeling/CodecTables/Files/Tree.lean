import CodecTables.Files.Path

/-!
# File trees

The files and directories around a working directory, as a value. Locations are told apart from
paths: a path is followed name by name through directories that exist, and ends at a directory, at
a file, or at a name that is still free.

A tree has regular files and directories only. It leaves out permissions, symbolic links and
devices, so whatever a path leads to can be read or opened for writing, and a write does not fail
once the file is opened.
-/

namespace CodecTables.Files

/-- Why a path cannot be used. -/
inductive Problem where
  | nulInPath
  | notFound
  | isDirectory
  | notDirectory
  | nameTooLong
deriving DecidableEq, Repr

namespace Problem

/-- What the system says about a problem. -/
def reason : Problem → String
  | nulInPath => "embedded null byte"
  | notFound => "No such file or directory"
  | isDirectory => "Is a directory"
  | notDirectory => "Not a directory"
  | nameTooLong => "File name too long"

/-- The number of the reason; a path with the character U+0000 is refused before any is given. -/
def number : Problem → Nat
  | nulInPath => 0
  | notFound => 2
  | isDirectory => 21
  | notDirectory => 20
  | nameTooLong => 36

end Problem

/-- Where a chain of names starts: so many directories above the working directory, or at the
root of all directories. -/
inductive Base where
  | above (levels : Nat)
  | root
deriving DecidableEq

/-- A place in the tree: the names that lead to it from its base. -/
structure Location where
  base : Base
  names : List String
deriving DecidableEq

namespace Location

/-- Where a path starts: at the root, or in the working directory. -/
def start (path : Path) : Location := ⟨if path.root.isEmpty then .above 0 else .root, []⟩

/-- The directory above a place; the root lies in itself. -/
def parent (l : Location) : Location :=
  match l.names, l.base with
  | [], .above levels => ⟨.above (levels + 1), []⟩
  | [], .root => l
  | _, base => ⟨base, l.names.dropLast⟩

/-- The place of a name in a directory. -/
def child (l : Location) (name : String) : Location := ⟨l.base, l.names ++ [name]⟩

end Location

/-- What stands at a place. -/
inductive Entry where
  | file (content : List UInt8)
  | directory

/-- Files and directories by their places. The bases are directories without being listed. -/
structure Tree where
  entries : List (Location × Entry)

/-- What a path leads to: a directory, a file, or a free place in a directory. -/
inductive Target where
  | directory (place : Location)
  | file (place : Location) (content : List UInt8)
  | vacant (place : Location)

namespace Tree

/-- The tree with no entries. -/
def empty : Tree := ⟨[]⟩

/-- The entry at a place; the places that a path starts from are directories. -/
def lookup (tree : Tree) (place : Location) : Option Entry :=
  if place.names.isEmpty then some .directory
  else (tree.entries.find? fun entry => entry.1 == place).map Prod.snd

/-- Puts an entry at a place, instead of one that stood there. -/
def set (tree : Tree) (place : Location) (entry : Entry) : Tree :=
  if tree.entries.any fun old => old.1 == place then
    ⟨tree.entries.map fun old => if old.1 == place then (place, entry) else old⟩
  else ⟨tree.entries ++ [(place, entry)]⟩

/-- The longest name in a directory, in bytes. -/
def maxName : Nat := 255

/-- The longest path, in bytes. -/
def maxPath : Nat := 4095

/-- One name, looked up in a directory. -/
def step (tree : Tree) (directory : Location) (name : String) : Except Problem Target :=
  if name = ".." then .ok (.directory directory.parent)
  else if name.utf8ByteSize > maxName then .error .nameTooLong
  else
    let place := directory.child name
    .ok <| match tree.lookup place with
      | none => .vacant place
      | some .directory => .directory place
      | some (.file content) => .file place content

/-- The rest of a path, followed from a directory: all but its last name lead to directories. -/
def follow (tree : Tree) (directory : Location) : List String → Except Problem Target
  | [] => .ok (.directory directory)
  | name :: rest =>
    match tree.step directory name with
    | .error problem => .error problem
    | .ok (.directory place) => tree.follow place rest
    | .ok target =>
      if rest.isEmpty then .ok target
      else match target with
        | .vacant _ => .error .notFound
        | _ => .error .notDirectory

/-- What a path leads to, or why it leads nowhere. -/
def resolve (tree : Tree) (path : Path) : Except Problem Target :=
  if path.text.toList.contains '\x00' then .error .nulInPath
  else if path.text.utf8ByteSize > maxPath then .error .nameTooLong
  else tree.follow (.start path) path.names

/-- The content of the file that a path leads to. -/
def read (tree : Tree) (path : Path) : Except Problem (List UInt8) :=
  match tree.resolve path with
  | .error problem => .error problem
  | .ok (.file _ content) => .ok content
  | .ok (.directory _) => .error .isDirectory
  | .ok (.vacant _) => .error .notFound

/-- Whether a path leads to a directory; one that is too long cannot even be tried. -/
def isDirectory (tree : Tree) (path : Path) : Except Problem Bool :=
  match tree.resolve path with
  | .ok (.directory _) => .ok true
  | .error .nameTooLong => .error .nameTooLong
  | _ => .ok false

/-- The names in a directory, each once, in the order of the tree. -/
def namesIn (tree : Tree) (directory : Location) : List String :=
  (tree.entries.filterMap fun entry =>
    if entry.1.names ≠ [] ∧ entry.1.parent = directory then entry.1.names.getLast?
    else none).eraseDups

/-- The names in the directory that a path leads to. -/
def list (tree : Tree) (path : Path) : Except Problem (List String) :=
  match tree.resolve path with
  | .error problem => .error problem
  | .ok (.directory place) => .ok (tree.namesIn place)
  | .ok (.file ..) => .error .notDirectory
  | .ok (.vacant _) => .error .notFound

/-- Writes a file, which is new or takes the place of a file. -/
def write (tree : Tree) (path : Path) (content : List UInt8) : Except Problem Tree :=
  match tree.resolve path with
  | .error problem => .error problem
  | .ok (.directory _) => .error .isDirectory
  | .ok (.file place _) => .ok (tree.set place (.file content))
  | .ok (.vacant place) => .ok (tree.set place (.file content))

/-- Puts an entry at the end of a chain of names and makes the directories on the way. -/
def plant (tree : Tree) (directory : Location) (entry : Entry) : List String → Tree
  | [] => tree
  | ".." :: rest => tree.plant directory.parent entry rest
  | [name] => tree.set (directory.child name) entry
  | name :: rest =>
    let place := directory.child name
    match tree.lookup place with
    | some .directory => tree.plant place entry rest
    | _ => (tree.set place .directory).plant place entry rest

/-- Puts an entry at a path and makes the directories on the way. -/
def place (tree : Tree) (path : Path) (entry : Entry) : Tree :=
  tree.plant (.start path) entry path.names

/-- Takes away what stands at a path, with all that stands below it. -/
def remove (tree : Tree) (path : Path) : Tree :=
  match tree.resolve path with
  | .ok (.file place _) | .ok (.directory place) =>
    ⟨tree.entries.filter fun entry =>
      !(entry.1.base == place.base && place.names.isPrefixOf entry.1.names)⟩
  | _ => tree

end Tree

end CodecTables.Files
