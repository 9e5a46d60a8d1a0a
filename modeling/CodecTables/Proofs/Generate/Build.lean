import CodecTables.Generate.Generator
import CodecTables.Proofs.Compile.Visits

/-!
# Building a source

The outcome of building a source from given bundles: its banner may be too wide, and compiling may
stop; else the statements that were compiled are the source (`outcome_build`).
-/

namespace CodecTables.Generate

open Compile (Visit)
open Files (Path Tree)
open Report (Failure Record)
open Resource (Entity VendorGroup)
open Source (Node)

/-- What a session gives, or how it fails, and the workspace that it leaves. -/
def outcome {α : Type} (session : Session α) (w : Workspace) : Except Failure α × Workspace :=
  session w

/-- The record of a compiled source. -/
def compiledRecord (state : Compile.State) : Record :=
  ⟨.debug, .compiler, "Compiled " ++ Text.count state.statements.length ++ " statements, " ++
    Text.count state.buffers.length ++ " shared buffers"⟩

/-- A chain of two steps goes on from where the first one ended. -/
theorem outcome_bind {α β : Type} (session : Session α) (next : α → Session β) (w : Workspace) :
    outcome (session >>= next) w =
      match outcome session w with
      | (.ok a, w') => outcome (next a) w'
      | (.error e, w') => (.error e, w') := by
  simp only [outcome, bind, ExceptT.bind, ExceptT.mk, StateT.bind, ExceptT.bindCont]
  rcases session w with ⟨_ | a, w'⟩ <;> rfl

theorem outcome_get (w : Workspace) : outcome get w = (.ok w, w) := rfl

theorem exists_of_toBool {α : Type} {session : Session α} {w : Workspace}
    (succeeds : (outcome session w).1.toBool = true) :
    ∃ a w', outcome session w = (.ok a, w') := by
  rcases run : outcome session w with ⟨failure | a, w'⟩
  · rw [run] at succeeds
    cases succeeds
  · exact ⟨a, w', rfl⟩

theorem outcome_note (records : List Record) (w : Workspace) :
    outcome (note records) w = (.ok (), { w with log := w.log ++ records }) := rfl

/-- The banner depends on the settings and the time, and changes nothing. -/
theorem outcome_banner (generator : Generator) (w : Workspace) :
    outcome generator.banner w =
      match banner generator.settings (generator.settings.time w.now) with
      | .error excess => (.error (.excess excess), w)
      | .ok lines => (.ok lines, w) := by
  unfold Generator.banner
  rw [outcome_bind, outcome_get]
  dsimp only
  cases banner generator.settings (generator.settings.time w.now) <;> rfl

/-- The entities of a source, compiled with the files that there are. -/
def visitsOf (files : Tree) (tables : Directory.Tables) (groups : List VendorGroup) : List Visit :=
  (Generator.entities tables groups).map fun entity => ⟨files, entity⟩

/-- What a source is compiled after. -/
def opened (settings : Settings) (lines : List String) : Compile.State :=
  .start (Generator.opening settings lines) (.start none) .empty

/-- The run of the entities of a source. -/
def compiled (generator : Generator) (groups : List VendorGroup) (files : Tree)
    (lines : List String) : Except Compile.Stop (List (List Node)) × Compile.State :=
  Compile.outcome (Compile.visits Compile.buffer (visitsOf files generator.tables groups))
    (opened generator.settings lines)

/-- A compilation is the run of its visits from the opened source. -/
theorem compile_eq (generator : Generator) (groups : List VendorGroup) (files : Tree)
    (lines : List String) :
    Generator.compile files (Generator.opening generator.settings lines) generator.tables groups =
      ((compiled generator groups files lines).1.map fun _ => (),
        (compiled generator groups files lines).2) := by
  have same : Compile.entities files (Generator.entities generator.tables groups) =
      Compile.visits Compile.buffer (visitsOf files generator.tables groups) := List.mapM_map.symm
  unfold Generator.compile
  rw [same]
  rfl

/-- The outcome of building from given bundles. -/
theorem outcome_build (generator : Generator) (groups : List VendorGroup) (w : Workspace) :
    outcome (generator.build (some groups)) w =
      match banner generator.settings (generator.settings.time w.now) with
      | .error excess => (.error (.excess excess), w)
      | .ok lines =>
        match compiled generator groups w.files lines with
        | (.error stop, state) => (.error stop.failure, { w with log := w.log ++ state.log })
        | (.ok _, state) =>
          (.ok state.statements,
            { w with log := w.log ++ state.log ++ [compiledRecord state] }) := by
  unfold Generator.build
  dsimp only
  rw [outcome_bind, show outcome (pure groups) w = (.ok groups, w) from rfl]
  dsimp only
  rw [outcome_bind, outcome_banner]
  cases banner generator.settings (generator.settings.time w.now) with
  | error excess => rfl
  | ok lines =>
    dsimp only
    rw [outcome_bind, outcome_get]
    dsimp only
    rw [compile_eq]
    rcases compiled generator groups w.files lines with ⟨stop | results, state⟩
    · dsimp only [Except.map]
      rw [outcome_bind, outcome_note]
      rfl
    · dsimp only [Except.map]
      rw [outcome_bind, outcome_note]
      rfl

/-- A source that is built is what the run of its entities leaves. -/
theorem takes_of_build {generator : Generator} {groups : List VendorGroup} {w w' : Workspace}
    {source : List Node} (built : outcome (generator.build (some groups)) w = (.ok source, w')) :
    ∃ lines results state,
      Compile.Takes (Compile.visits Compile.buffer (visitsOf w.files generator.tables groups))
        (opened generator.settings lines) results state ∧ source = state.statements := by
  rw [outcome_build] at built
  cases lined : banner generator.settings (generator.settings.time w.now) with
  | error excess =>
    rw [lined] at built
    cases built
  | ok lines =>
    rw [lined] at built
    dsimp only at built
    rcases run : compiled generator groups w.files lines with ⟨stop | results, state⟩
    · rw [run] at built
      cases built
    · rw [run] at built
      cases built
      exact ⟨lines, results, state, run, rfl⟩

/-- Building from the bundles that are found is building from them as given ones. -/
theorem outcome_build_discovered {generator : Generator} {groups : List VendorGroup}
    {w v : Workspace} (found : outcome generator.discover w = (.ok groups, v)) :
    outcome generator.build w = outcome (generator.build (some groups)) v := by
  unfold Generator.build
  dsimp only
  rw [outcome_bind, found, outcome_bind, show outcome (pure groups) v = (.ok groups, v) from rfl]

/-- Whatever bundles a source is built from, it is what a run of its entities leaves. -/
theorem exists_takes_of_build {generator : Generator} {groups? : Option (List VendorGroup)}
    {w w' : Workspace} {source : List Node}
    (built : outcome (generator.build groups?) w = (.ok source, w')) :
    ∃ files groups lines results state,
      Compile.Takes (Compile.visits Compile.buffer (visitsOf files generator.tables groups))
        (opened generator.settings lines) results state ∧ source = state.statements := by
  cases groups? with
  | some groups =>
    obtain ⟨lines, results, state, run, same⟩ := takes_of_build built
    exact ⟨_, _, lines, results, state, run, same⟩
  | none =>
    rcases found : outcome generator.discover w with ⟨failure | groups, v⟩
    · unfold Generator.build at built
      dsimp only at built
      rw [outcome_bind, found] at built
      cases built
    · rw [outcome_build_discovered found] at built
      obtain ⟨lines, results, state, run, same⟩ := takes_of_build built
      exact ⟨_, _, lines, results, state, run, same⟩

/-- An opening is of comments and an inclusion. -/
theorem value_opening {settings : Settings} {lines : List String} {statement : Node}
    (member : statement ∈ Generator.opening settings lines) : statement.value? = none := by
  rcases List.mem_append.mp member with line | header
  · obtain ⟨text, _, rfl⟩ := List.mem_map.mp line
    rfl
  · rw [List.mem_singleton.mp header]
    rfl

/-- Nothing is used before the first entity. -/
theorem usedNames_opened (settings : Settings) (lines : List String) :
    Source.usedNames (opened settings lines).statements = [] := by
  refine List.flatMap_eq_nil_iff.mpr fun statement member => ?_
  rw [Node.uses, value_opening member]
  rfl

/-- Nothing is declared before the first entity. -/
theorem declaredNames_opened (settings : Settings) (lines : List String) :
    Source.declaredNames (opened settings lines).statements = [] := by
  refine List.filterMap_eq_nil_iff.mpr fun statement member => ?_
  rcases List.mem_append.mp member with line | header
  · obtain ⟨text, _, rfl⟩ := List.mem_map.mp line
    rfl
  · rw [List.mem_singleton.mp header]
    rfl

theorem byteArrays_opened (settings : Settings) (lines : List String) :
    Source.byteArrays (opened settings lines).statements = [] := by
  refine List.filter_eq_nil_iff.mpr fun statement member => ?_
  rcases List.mem_append.mp member with line | header
  · obtain ⟨text, _, rfl⟩ := List.mem_map.mp line
    exact Bool.false_ne_true
  · rw [List.mem_singleton.mp header]
    exact Bool.false_ne_true

end CodecTables.Generate
