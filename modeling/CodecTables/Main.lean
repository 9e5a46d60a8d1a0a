import CodecTables.CommandLine.Program
import Std.Time.Zoned

/-!
# The executable

Gathers the files that a call may read, runs the call on them, and writes the generated source to
the file system.
-/

namespace CodecTables.Main

open CommandLine
open Files (Path Tree)

/-- The directory in which the last name of a path stands. -/
def directoryOf (path : Path) : Path := ⟨path.root, path.names.dropLast⟩

/-- Adds what stands at a path to a tree; a directory with all that it holds, if `deep` is set. -/
partial def gather (deep : Bool) (tree : Tree) (path : Path) : IO Tree := do
  try
    let place ← IO.FS.realPath path.text
    if ← place.isDir then
      let mut tree := if path.names.isEmpty then tree else tree.place path .directory
      if deep then
        for entry in ← place.readDir do
          tree ← gather deep tree (path.child entry.fileName)
      return tree
    else
      return tree.place path (.file (← IO.FS.readBinFile place).toList)
  catch _ => return tree

/-- The paths of the codec files that the bundles of a directory refer to. -/
def codecPaths (tree : Tree) (directory : Path) : List Path :=
  match (Directory.findBundles tree directory {}).1 with
  | .error _ => []
  | .ok bundles => bundles.flatMap fun bundle =>
      (bundle.info.files.layouts ++ bundle.info.files.platforms).map fun file =>
        bundle.path.join (.ofString file.path)

/-- Gathers the files that a call with these options reads. -/
def gatherFor (options : Options) : IO Tree := do
  let directory := Path.ofString options.directory
  let output := Path.ofString (options.output.getD "")
  let mut tree ← gather true .empty directory
  for path in codecPaths tree directory do
    tree ← gather false tree path
  tree ← gather false tree (directoryOf output)
  gather false tree output

/-- The present time, and the time of day in front of log lines. -/
def clock : IO (Data.Moment × String) := do
  let now ← Std.Time.PlainDateTime.now
  let moment : Data.Moment :=
    { year := now.year.toInt.toNat
      month := now.month.val.toNat
      day := now.day.val.toNat
      hour := now.hour.val.toNat
      minute := now.minute.val.toNat
      second := now.second.val.toNat
      microsecond := 0 }
  return (moment, String.ofList (moment.stamp.toList.dropWhile (· ≠ ' ')).tail)

/-- Writes the generated source to the file system. -/
def save (files : Tree) (output : String) : IO Unit := do
  match files.read (.ofString output) with
  | .ok bytes => IO.FS.writeBinFile output bytes.toByteArray
  | .error _ => return

end CodecTables.Main

open CodecTables CodecTables.CommandLine in
/-- Reads the files, runs the program on them, and writes what it leaves. -/
def main (arguments : List String) : IO UInt32 := do
  let options := Options.read arguments
  let files ← match options with
    | .ok options => Main.gatherFor options
    | .error _ => pure .empty
  let (now, time) ← Main.clock
  match run { files := files, now := now, clock := time, colored := false } arguments with
  | .error failure =>
    IO.eprintln failure.message
    return 1
  | .ok outcome =>
    IO.print outcome.stdout
    IO.eprint outcome.stderr
    if outcome.exit = 0 then
      if let .ok { output := some output, .. } := options then
        Main.save outcome.files output
    return outcome.exit.toUInt32
