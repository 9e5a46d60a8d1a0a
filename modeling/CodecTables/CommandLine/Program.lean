import CodecTables.CommandLine.Options
import CodecTables.Generate.Generator

/-!
# The program

A call of the program generates the source of a resource directory. Its outcome is an exit code, the
text on the two output streams and the files afterwards. The exit code tells faults apart: the
source cannot be written, the tables contradict each other, or anything else.
-/

namespace CodecTables.CommandLine

open Data (Moment)
open Files (Path Tree)
open Generate (Generator Session Workspace)
open Report (Category Failure Fault Level Record)

/-- What a call leaves: its exit code, its output and the files. -/
structure Outcome where
  exit : Nat
  stdout : String
  stderr : String
  files : Tree

/-- What a call is made with. -/
structure Environment where
  files : Tree
  now : Moment
  clock : String
  colored : Bool

/-- The colours of final messages. -/
inductive Color where
  | red
  | green

/-- A text in bold type and a colour, where the terminal shows colours. -/
def paint (colored : Bool) (color : Color) (text : String) : String :=
  if colored then
    "\x1b[1m\x1b[" ++ (match color with | .red => "31" | .green => "32") ++ "m" ++ text ++ "\x1b[0m"
  else text

/-- The line that tells the user of an error. -/
def errorLine (colored : Bool) (message : String) : String :=
  paint colored .red ("Error: " ++ message) ++ "\n"

/-- The least urgent level that is shown. -/
def threshold : Nat → Level
  | 0 => .warning
  | 1 => .info
  | _ => .debug

/-- The lines of the records that are shown. -/
def logText (clock : String) (verbosity : Nat) (log : List Record) : String :=
  String.join <| (log.filter fun r => (threshold verbosity).rank ≤ r.level.rank).map fun r =>
    r.line clock ++ "\n"

/-- How a call ends in a failure: the exit code, the records made of it, and the lines after the
log. -/
def ending (colored : Bool) : Failure → Nat × List Record × String
  | .fault f =>
    let report := ([], errorLine colored f.text)
    match f.category with
    | .inconsistency _ => (3, report)
    | .output => (2, report)
    | .general => (1, [⟨.error, .program, "Unhandled exception: " ++ f.text⟩], "")
    | _ => (1, report)
  | .interrupted => (130, [⟨.info, .program, "Interrupted by user."⟩], "")
  | failure => (1, [⟨.error, .program, "Unhandled exception: " ++ failure.message⟩], "")

/-- How an output operand is shown. -/
def shownOutput (output : Option String) : String := output.getD "[]"

/-- Writes the source to the output path; without one, the source is made all the same before the
call fails. -/
def writeTo (generator : Generator) : Option String → Session Unit
  | some path => generator.write (.ofString path)
  | none => do
    let _ ← generator.generate
    throw (.unexpected "expected str, bytes or os.PathLike object, not list")

/-- Does the work of a call on a directory that exists. -/
def work (finish : Generator → Option String → Session Unit) (environment : Environment)
    (options : Options) : Except Failure Unit × Workspace :=
  let session : Session Unit := do
    match options.indent with
    | none => throw (.unexpected "'list' object has no attribute 'strip'")
    | some indent =>
      let generator ← Generator.load (.ofString options.directory)
        { indent, timestamp := options.timestamp }
      finish generator options.output
  session ⟨environment.files, environment.now, []⟩

/-- What a call with readable arguments leads to. The last step of the work may be replaced. A
directory that cannot even be looked at is a failure of the call. -/
def generate (finish : Generator → Option String → Session Unit) (environment : Environment)
    (options : Options) : Except Failure Outcome :=
  let opening := "Working Directory: " ++ options.directory ++ "\nOutput C++ file: " ++
    shownOutput options.output ++ "\n"
  let directory := Path.ofString options.directory
  match environment.files.isDirectory directory with
  | .error problem => .error (.inaccessible problem directory)
  | .ok false =>
    .ok ⟨1, opening, errorLine environment.colored (directory.text ++ " is not a directory"),
      environment.files⟩
  | .ok true =>
    let (result, space) := work finish environment options
    let shown (log : List Record) := logText environment.clock options.verbosity log
    match result with
    | .ok () =>
      .ok ⟨0, opening ++ paint environment.colored .green "Done" ++ "\n", shown space.log,
        space.files⟩
    | .error failure =>
      let (exit, records, lines) := ending environment.colored failure
      .ok ⟨exit, opening, shown (space.log ++ records) ++ lines, space.files⟩

/-- A call of the program; `finish` is what becomes of the generator once it is made. -/
def run (environment : Environment) (arguments : List String)
    (finish : Generator → Option String → Session Unit := writeTo) : Except Failure Outcome :=
  match Options.read arguments with
  | .ok options => generate finish environment options
  | .error .help => .ok ⟨0, helpText, "", environment.files⟩
  | .error .version => .ok ⟨0, versionText, "", environment.files⟩
  | .error (.misuse e) => .ok ⟨2, "", e.report, environment.files⟩
  | .error (.excess e) => .error (.excess e)

end CodecTables.CommandLine
