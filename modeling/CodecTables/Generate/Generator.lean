import CodecTables.Compile.Rule
import CodecTables.Directory.Bundle
import CodecTables.Generate.Banner
import CodecTables.Source.Print

/-!
# Generating a source

A generator is made for a resource directory, whose tables it loads at once. Building compiles them
together with the codec bundles, which are looked for at that time. The source is written to a file
only when all of it was compiled, so that a failure leaves no file.
-/

namespace CodecTables.Generate

open Data (Moment)
open Directory (Tables)
open Files (Path Tree)
open Report (Failure Level Record)
open Resource (Entity VendorGroup)
open Source (Node)

/-- The files that a session works on, the present time, and the records that were made. -/
structure Workspace where
  files : Tree
  now : Moment
  log : List Record

/-- Work on files, which may fail. -/
abbrev Session := ExceptT Failure (StateM Workspace)

/-- Adds records to the log. -/
def note (records : List Record) : Session Unit :=
  modify fun w => { w with log := w.log ++ records }

/-- A resource directory with its tables and the settings. -/
structure Generator where
  directory : Path
  settings : Settings
  tables : Tables

namespace Generator

/-- Makes a generator: warns of questionable settings and loads the tables. -/
def load (directory : Path) (settings : Settings) : Session Generator := do
  note (settings.warnings.map fun warning => ⟨.warning, .compiler, "config: " ++ warning⟩)
  match Tables.load (← get).files directory settings with
  | .error failure => throw failure
  | .ok tables =>
    note [⟨.info, .compiler,
      "Loaded " ++ Text.count tables.lookup.length ++ " codecs, " ++
        Text.count tables.kexts.entries.length ++ " kexts, " ++
        Text.count tables.controllers.length ++ " controllers from " ++ directory.text⟩]
    return ⟨directory, settings, tables⟩

/-- Finds the codec bundles of the resource directory, by vendor. -/
def discover (generator : Generator) : Session (List VendorGroup) := do
  let (result, records) :=
    Directory.findBundles (← get).files generator.directory generator.settings
  note records
  match result with
  | .error failure => throw failure
  | .ok bundles => return VendorGroup.group bundles

/-- The lines of the banner, with the time of generation. -/
def banner (generator : Generator) : Session (List String) := do
  match Generate.banner generator.settings (generator.settings.time (← get).now) with
  | .ok lines => return lines
  | .error e => throw (.excess e)

/-- What a source begins with: the banner and the inclusion of the header. -/
def opening (settings : Settings) (banner : List String) : List Node :=
  banner.map .comment ++ [.inclusion settings.header]

/-- The entities that make a source, in their order. -/
def entities (tables : Tables) (groups : List VendorGroup) : List Entity :=
  [.lookupTable tables.lookup, .kextTable tables.kexts, .vendorGroups groups,
    .controllerTable tables.controllers]

/-- Compiles the tables and the given bundles after an opening. -/
def compile (files : Tree) (opening : List Node) (tables : Tables) (groups : List VendorGroup) :
    Except Compile.Stop Unit × Compile.State :=
  let (result, state) := Compile.entities files (entities tables groups)
    (.start opening (.start none) .empty)
  (result.map fun _ => (), state)

/-- Builds the statements of the source from the given bundles, or from those that it finds. -/
def build (generator : Generator) (groups? : Option (List VendorGroup) := none) :
    Session (List Node) := do
  let groups ← match groups? with
    | some groups => pure groups
    | none => generator.discover
  let start := opening generator.settings (← generator.banner)
  let (result, state) := compile (← get).files start generator.tables groups
  note state.log
  match result with
  | .error stop => throw stop.failure
  | .ok () =>
    note [⟨.debug, .compiler,
      "Compiled " ++ Text.count state.statements.length ++ " statements, " ++
        Text.count state.buffers.length ++ " shared buffers"⟩]
    return state.statements

/-- The text of statements in the indentation of the settings. -/
def render (generator : Generator) (statements : List Node) : Session String :=
  match (Node.sourceCode statements).render generator.settings.indent with
  | .ok text => return text
  | .error (.root r) => throw (.unexpected r.message)
  | .error (.excess e) => throw (.excess e)

/-- The text of the generated source. -/
def generate (generator : Generator) : Session String := do
  generator.render (← generator.build)

/-- Writes the generated source to a path. -/
def write (generator : Generator) (path : Path) : Session Unit := do
  let text ← generator.generate
  let bytes := Text.encodeUtf8 text
  match (← get).files.write path bytes with
  | .error .nulInPath => throw .nulInPath
  | .error problem => throw (.fault (.unwritable path problem.reason))
  | .ok files =>
    modify fun w => { w with files := files }
    note [⟨.info, .compiler,
      "Wrote " ++ Text.count bytes.length ++ " bytes to " ++ path.text⟩]

end Generator

/-- Generates the source of a resource directory and writes it to a file. -/
def compileResources (directory output : Path) (settings : Settings) : Session Unit := do
  (← Generator.load directory settings).write output

end CodecTables.Generate
