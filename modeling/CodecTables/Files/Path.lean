/-!
# Paths

A path is a list of names under a root, or under the working directory where there is no root. Empty
names and single points do not count; two points are a name like any other, since where they lead
depends on the files.
-/

namespace CodecTables.Files

/-- A path. The root is empty, one slash or two slashes. -/
structure Path where
  root : String
  names : List String
deriving DecidableEq

namespace Path

/-- The path of the current directory, which has no names. -/
def here : Path := ⟨"", []⟩

/-- Splits a text at the slashes. -/
def splitNames : List Char → List (List Char)
  | [] => [[]]
  | c :: cs =>
    if c = '/' then [] :: splitNames cs
    else match splitNames cs with
      | [] => [[c]]
      | name :: names => (c :: name) :: names

/-- The root that a text begins with. More than two slashes count as one. -/
def rootOf (cs : List Char) : String :=
  match (cs.takeWhile (· = '/')).length with
  | 0 => ""
  | 2 => "//"
  | _ => "/"

/-- A name that counts in a path. -/
def counts (name : List Char) : Bool := !(name.isEmpty || name = ['.'])

/-- The path that a text stands for; empty names and single points are dropped. -/
def ofString (s : String) : Path :=
  ⟨rootOf s.toList, ((splitNames s.toList).filter counts).map String.ofList⟩

/-- The text of a path; the working directory is a point. -/
def text (p : Path) : String :=
  if p.root.isEmpty && p.names.isEmpty then "." else p.root ++ "/".intercalate p.names

/-- A path from the directory `p`; one with a root of its own leads away from `p`. -/
def join (p q : Path) : Path :=
  if q.root.isEmpty then ⟨p.root, p.names ++ q.names⟩ else q

/-- The entry of the directory `p` with the given name. -/
def child (p : Path) (name : String) : Path := ⟨p.root, p.names ++ [name]⟩

/-- The last name, which is empty for a root or the working directory. -/
def name (p : Path) : String := p.names.getLast?.getD ""

/-- The part of a name from its last point on, if that point is neither its first nor its last
character; else nothing. -/
def suffixOf (name : List Char) : List Char :=
  let tail := (name.reverse.takeWhile (· ≠ '.')).reverse
  if tail.isEmpty || tail.length + 1 ≥ name.length then [] else '.' :: tail

/-- The suffix of the last name, with its point. -/
def suffix (p : Path) : String := String.ofList (suffixOf p.name.toList)

end Path

end CodecTables.Files
