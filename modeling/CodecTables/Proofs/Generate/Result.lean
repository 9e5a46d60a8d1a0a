import CodecTables.Proofs.Generate.Discovery

/-!
# What is generated

The text that is generated is a function of the files, the settings and the time (`sourceText`): the
sessions that make it only add to the log (`outcome_loadAndGenerate`), and the one that writes it
changes the files by that alone (`outcome_compileResources`).
-/

namespace CodecTables.Generate

open Data (Moment)
open Directory (Tables findBundles)
open Files (Path Tree)
open Report (Failure Record)
open Resource (VendorGroup)
open Source (Node)

/-- The failure that reports why a source has no text. -/
def renderFailure : Source.Unprintable → Failure
  | .root r => .unexpected r.message
  | .excess e => .excess e

/-- The text of statements. -/
def rendered (settings : Settings) (statements : List Node) : Except Failure String :=
  ((Node.sourceCode statements).render settings.indent).mapError renderFailure

/-- The text that is made of the tables and the given bundles. -/
def textOf (files : Tree) (now : Moment) (generator : Generator) (groups : List VendorGroup) :
    Except Failure String :=
  match banner generator.settings (generator.settings.time now) with
  | .error excess => .error (.excess excess)
  | .ok lines =>
    match compiled generator groups files lines with
    | (.error stop, _) => .error stop.failure
    | (.ok _, state) => rendered generator.settings state.statements

/-- The text that is generated by a generator from the bundles that it finds. -/
def foundText (files : Tree) (now : Moment) (generator : Generator) : Except Failure String :=
  match (findBundles files generator.directory generator.settings).1 with
  | .error failure => .error failure
  | .ok bundles => textOf files now generator (VendorGroup.group bundles)

/-- The text that is generated from a resource directory. -/
def sourceText (files : Tree) (now : Moment) (directory : Path) (settings : Settings) :
    Except Failure String :=
  match Tables.load files directory settings with
  | .error failure => .error failure
  | .ok tables => foundText files now ⟨directory, settings, tables⟩

/-- The text of statements does not depend on the files, and changes nothing. -/
theorem outcome_render (generator : Generator) (statements : List Node) (w : Workspace) :
    outcome (generator.render statements) w = (rendered generator.settings statements, w) := by
  unfold Generator.render rendered
  rcases (Node.sourceCode statements).render generator.settings.indent with reason | text
  · cases reason <;> rfl
  · rfl

/-- A generator is made if the tables can be loaded, and only the log tells of it. -/
theorem outcome_load (directory : Path) (settings : Settings) (w : Workspace) :
    ∃ log, outcome (Generator.load directory settings) w =
      ((Tables.load w.files directory settings).map fun tables => ⟨directory, settings, tables⟩,
        { w with log := log }) := by
  unfold Generator.load
  rw [outcome_bind, outcome_note]
  dsimp only
  rw [outcome_bind, outcome_get]
  dsimp only
  rcases Tables.load w.files directory settings with failure | tables
  · exact ⟨_, rfl⟩
  · exact ⟨_, rfl⟩

/-- The text is made of the files and the time as they are. -/
theorem outcome_generate (generator : Generator) (w : Workspace) :
    ∃ log, outcome generator.generate w =
      (foundText w.files w.now generator, { w with log := log }) := by
  unfold Generator.generate foundText
  rw [outcome_bind]
  rcases found : findBundles w.files generator.directory generator.settings with
    ⟨failure | bundles, records⟩
  · have none : outcome generator.discover w =
        (.error failure, { w with log := w.log ++ records }) := by
      rw [outcome_discover, found]
      rfl
    unfold Generator.build
    dsimp only
    rw [outcome_bind, none]
    exact ⟨_, rfl⟩
  · have some : outcome generator.discover w =
        (.ok (VendorGroup.group bundles), { w with log := w.log ++ records }) := by
      rw [outcome_discover, found]
      rfl
    rw [outcome_build_discovered some, outcome_build]
    unfold textOf
    dsimp only
    rcases banner generator.settings (generator.settings.time w.now) with excess | lines
    · exact ⟨_, rfl⟩
    · dsimp only
      rcases compiled generator (VendorGroup.group bundles) w.files lines with
        ⟨stop | results, state⟩
      · exact ⟨_, rfl⟩
      · dsimp only
        rw [outcome_render]
        exact ⟨_, rfl⟩

/-- Loading the tables and generating the text. -/
def loadAndGenerate (directory : Path) (settings : Settings) : Session String := do
  (← Generator.load directory settings).generate

/-- The text of a directory depends on the files, the time and the settings. -/
theorem outcome_loadAndGenerate (directory : Path) (settings : Settings) (w : Workspace) :
    ∃ log, outcome (loadAndGenerate directory settings) w =
      (sourceText w.files w.now directory settings, { w with log := log }) := by
  obtain ⟨log, loaded⟩ := outcome_load directory settings w
  unfold loadAndGenerate sourceText
  rw [outcome_bind, loaded]
  rcases Tables.load w.files directory settings with failure | tables
  · exact ⟨_, rfl⟩
  · exact outcome_generate ⟨directory, settings, tables⟩ { w with log := log }

/-! ### Writing -/

/-- What becomes of a text and the files: the text is in the file that it was written to. -/
def written (files : Tree) (output : Path) : Except Failure String → Except Failure Unit × Tree
  | .error failure => (.error failure, files)
  | .ok text =>
    match files.write output (Text.encodeUtf8 text) with
    | .ok files' => (.ok (), files')
    | .error .nulInPath => (.error .nulInPath, files)
    | .error problem => (.error (.fault (.unwritable output problem.reason)), files)

/-- A write leaves the files as the text and the output path determine. -/
theorem outcome_write (generator : Generator) (output : Path) (w : Workspace) :
    ∃ log, outcome (generator.write output) w =
      ((written w.files output (foundText w.files w.now generator)).1,
        ⟨(written w.files output (foundText w.files w.now generator)).2, w.now, log⟩) := by
  obtain ⟨log, generated⟩ := outcome_generate generator w
  unfold Generator.write
  rw [outcome_bind, generated]
  rcases foundText w.files w.now generator with failure | text
  · exact ⟨log, rfl⟩
  · dsimp only
    rw [outcome_bind, outcome_get]
    dsimp only [written]
    rcases w.files.write output (Text.encodeUtf8 text) with problem | files
    · cases problem <;> exact ⟨log, rfl⟩
    · exact ⟨_, rfl⟩

/-- Files change only by the text that is written. -/
theorem outcome_compileResources (directory output : Path) (settings : Settings) (w : Workspace) :
    ∃ log, outcome (compileResources directory output settings) w =
      ((written w.files output (sourceText w.files w.now directory settings)).1,
        ⟨(written w.files output (sourceText w.files w.now directory settings)).2, w.now,
          log⟩) := by
  obtain ⟨log, loaded⟩ := outcome_load directory settings w
  unfold compileResources sourceText
  rw [outcome_bind, loaded]
  rcases Tables.load w.files directory settings with failure | tables
  · exact ⟨_, rfl⟩
  · exact outcome_write ⟨directory, settings, tables⟩ output { w with log := log }

end CodecTables.Generate
