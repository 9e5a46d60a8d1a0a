import CodecTables.CommandLine.Program
import CodecTables.Proofs.Files.Writing
import CodecTables.Proofs.Generate.Making
import CodecTables.Proofs.Plist.Binary

/-!
# Exit codes

The exit code of a call tells what became of the source: it was written, a patch was for no known
kext, the output path could not be written, or something else was missing. A call that does not
exit with zero leaves the files as they were (`generate_reckoning`).
-/

namespace CodecTables.CommandLine

open Data (Moment)
open Directory (OfLoading Tables)
open Files (Entry Location Path Tree)
open Generate (Expressible Made NulFreeFiles Settings ShortChildren Unresolved Workspace outcome
  sourceText written)
open Plist.Binary (longDigits)
open Report (Failure)

/-! ### The code of a failure -/

theorem ending_of_ofLoading (colored : Bool) {failure : Failure} (ofLoading : OfLoading failure) :
    (ending colored failure).1 = 1 := by
  cases failure with
  | fault f =>
    obtain ⟨category, message, code, path⟩ := f
    cases category with
    | load | patch | bundle => rfl
    | general | compile | inconsistency | output => exact Bool.noConfusion ofLoading
  | interrupted => exact ofLoading.elim
  | _ => rfl

/-- A source that cannot be printed ends with the exit code 1. -/
theorem ending_renderFailure (colored : Bool) (reason : Source.Unprintable) :
    (ending colored (Generate.renderFailure reason)).1 = 1 := by
  cases reason <;> rfl

/-! ### Calls -/

/-- What a call comes to, by its exit code. -/
structure Reckoning (files : Tree) (now : Moment) (directory output : Path) (settings : Settings)
    (outcome : Outcome) : Prop where
  zero : outcome.exit = 0 ↔ files.isDirectory directory = .ok true ∧
    (∃ tables, Tables.load files directory settings = .ok tables ∧
      ¬ Unresolved files directory settings tables ∧
      Expressible files now directory settings tables) ∧
    files.Writable output
  /-- The output file holds the text that is made of the files before the call, and nothing else has
  changed. -/
  wrote : outcome.exit = 0 → ∃ text place, sourceText files now directory settings = .ok text ∧
    files.filePlace? output = some place ∧
    outcome.files.read output = .ok (Text.encodeUtf8 text) ∧
    ∀ l, l ≠ place → outcome.files.lookup l = files.lookup l
  three : outcome.exit = 3 ↔ ∃ tables, Tables.load files directory settings = .ok tables ∧
    Unresolved files directory settings tables
  two : outcome.exit = 2 ↔
    (∃ text, sourceText files now directory settings = .ok text) ∧ ¬ files.Writable output
  other : outcome.exit ∈ [0, 1, 2, 3]
  unchanged : outcome.exit ≠ 0 → outcome.files = files

/-- The exit code of finished work. -/
def exitOf (colored : Bool) : Except Failure Unit → Nat
  | .ok () => 0
  | .error failure => (ending colored failure).1

/-- A call on a directory that exists ends as its work does. -/
theorem generate_of_work {environment : Environment} (options : Options)
    {result : Except Failure Unit} {space : Workspace}
    (stands : environment.files.isDirectory (.ofString options.directory) = .ok true)
    (worked : work writeTo environment options = (result, space)) :
    ∃ outcome, generate writeTo environment options = .ok outcome ∧
      outcome.exit = exitOf environment.colored result ∧ outcome.files = space.files := by
  unfold generate
  dsimp only
  rw [stands, worked]
  cases result with
  | ok => exact ⟨_, rfl, rfl, rfl⟩
  | error failure => exact ⟨_, rfl, rfl, rfl⟩

theorem ofString_tableFile : Path.ofString "CodecLookup.plist" = ⟨"", ["CodecLookup.plist"]⟩ := by
  decide +kernel

theorem ofString_infoFile : Path.ofString "Info.plist" = ⟨"", ["Info.plist"]⟩ := by decide +kernel

/-- A call without a directory ends with one. -/
theorem generate_of_missing {environment : Environment} (options : Options)
    (missing : environment.files.isDirectory (.ofString options.directory) = .ok false) :
    ∃ outcome, generate writeTo environment options = .ok outcome ∧
      outcome.exit = 1 ∧ outcome.files = environment.files := by
  unfold generate
  dsimp only
  rw [missing]
  exact ⟨_, rfl, rfl, rfl⟩

/-- The work of a call is to compile the directory into the output, with the settings of the
options. -/
theorem work_eq (environment : Environment) (directory output indent : String) (verbosity : Nat)
    (timestamp : Option Moment) :
    work writeTo environment ⟨directory, some output, verbosity, some indent, timestamp⟩ =
      outcome (Generate.compileResources (.ofString directory) (.ofString output)
        { indent, timestamp }) ⟨environment.files, environment.now, []⟩ :=
  rfl

section

variable {files : Tree} {now : Moment} {directory output : Path} {settings : Settings}
  {call : Outcome}

/-- The tables that a directory loads are the only ones it does. -/
theorem exists_tables_iff {tables : Tables} {property : Tables → Prop}
    (loaded : Tables.load files directory settings = .ok tables) :
    (∃ tables, Tables.load files directory settings = .ok tables ∧ property tables) ↔
      property tables := by
  rw [loaded]
  simp

/-- A call that does not get as far as a text. -/
theorem reckoning_of_failure {failure : Failure}
    (failed : sourceText files now directory settings = .error failure)
    (missing : ¬ ∃ tables, Tables.load files directory settings = .ok tables ∧
      ¬ Unresolved files directory settings tables ∧
      Expressible files now directory settings tables)
    (exit : call.exit = 1 ∧ (¬ ∃ tables, Tables.load files directory settings = .ok tables ∧
        Unresolved files directory settings tables) ∨
      call.exit = 3 ∧ ∃ tables, Tables.load files directory settings = .ok tables ∧
        Unresolved files directory settings tables)
    (kept : call.files = files) : Reckoning files now directory output settings call := by
  have nothing : ¬ ∃ text, sourceText files now directory settings = .ok text := by
    rw [failed]
    exact fun ⟨_, same⟩ => nomatch same
  constructor <;> rcases exit with ⟨code, three⟩ | ⟨code, three⟩ <;>
    simp [code, three, missing, nothing, kept]

/-- A call that gets as far as a text exits with zero or two, as the text can be written or not. -/
theorem reckoning_of_text {text : String} {tables : Tables}
    (made : sourceText files now directory settings = .ok text)
    (stands : files.isDirectory directory = .ok true)
    (loaded : Tables.load files directory settings = .ok tables)
    (resolved : ¬ Unresolved files directory settings tables)
    (expressible : Expressible files now directory settings tables)
    (writing : (∃ written, files.write output (Text.encodeUtf8 text) = .ok written ∧
        call.exit = 0 ∧ call.files = written) ∨
      ((¬ ∃ written, files.write output (Text.encodeUtf8 text) = .ok written) ∧ call.exit = 2 ∧
        call.files = files)) :
    Reckoning files now directory output settings call := by
  have complete : ∃ tables, Tables.load files directory settings = .ok tables ∧
      ¬ Unresolved files directory settings tables ∧
      Expressible files now directory settings tables := ⟨tables, loaded, resolved, expressible⟩
  have three : ¬ ∃ tables, Tables.load files directory settings = .ok tables ∧
      Unresolved files directory settings tables := by
    rw [exists_tables_iff loaded]
    exact resolved
  rcases writing with ⟨written, wrote, code, after⟩ | ⟨refused, code, kept⟩
  · have writable := (Tree.exists_write_iff _).mp ⟨written, wrote⟩
    obtain ⟨place, there, read, same⟩ := Tree.write_eq_ok wrote
    refine ⟨?_, fun _ => ⟨text, place, made, there, ?_, ?_⟩, ?_, ?_, ?_, ?_⟩
    · simp [code, stands, complete, writable]
    · rw [after, read]
    · rw [after]
      exact same
    · simp [code, three]
    · simp [code, writable]
    · simp [code]
    · simp [code]
  · rw [Tree.exists_write_iff] at refused
    constructor <;> simp [code, three, refused, made, kept]

/-- What comes of making the text and writing it decides the exit code. -/
theorem reckoning_of_made (colored : Bool) (free : '\x00' ∉ output.text.toList)
    (stands : files.isDirectory directory = .ok true)
    (made : Made files now directory settings (sourceText files now directory settings))
    (exit : call.exit =
      exitOf colored (written files output (sourceText files now directory settings)).1)
    (after : call.files = (written files output (sourceText files now directory settings)).2) :
    Reckoning files now directory output settings call := by
  rcases result : sourceText files now directory settings with failure | text
  · rw [result] at made exit after
    have code : call.exit = (ending colored failure).1 := exit
    refine reckoning_of_failure result ?_ ?_ after
    · cases made with
      | unloaded failed => simp [failed]
      | unresolved _ loaded unresolved => simp [exists_tables_iff loaded, unresolved]
      | inexpressible _ loaded _ inexpressible => simp [exists_tables_iff loaded, inexpressible]
    · cases made with
      | unloaded failed ofLoading =>
        exact .inl ⟨code.trans (ending_of_ofLoading colored ofLoading), by simp [failed]⟩
      | unresolved _ loaded unresolved => exact .inr ⟨code, _, loaded, unresolved⟩
      | inexpressible reason loaded resolved =>
        refine .inl ⟨code.trans (ending_renderFailure colored reason), ?_⟩
        rw [exists_tables_iff loaded]
        exact resolved
  · rw [result] at made exit after
    cases made with
    | text _ loaded resolved expressible =>
      refine reckoning_of_text result stands loaded resolved expressible ?_
      unfold written at exit after
      dsimp only at exit after
      rcases wrote : files.write output (Text.encodeUtf8 text) with problem | files'
      · rw [wrote] at exit after
        have other : problem ≠ .nulInPath := by
          rintro rfl
          exact Tree.write_ne_nulInPath _ free wrote
        refine .inr ⟨by simp, ?_⟩
        cases problem with
        | nulInPath => exact absurd rfl other
        | _ => exact ⟨exit, after⟩
      · rw [wrote] at exit after
        exact .inl ⟨files', rfl, exit, after⟩

/-- Where there is no directory, there is nothing to load. -/
theorem reckoning_of_missing {table : String}
    (named : Path.ofString settings.codecLookupFile = ⟨"", [table]⟩)
    (missing : files.isDirectory directory = .ok false) (code : call.exit = 1)
    (kept : call.files = files) : Reckoning files now directory output settings call := by
  rcases loaded : Tables.load files directory settings with failure | tables
  · have failed : sourceText files now directory settings = .error failure := by
      unfold sourceText
      rw [loaded]
    exact reckoning_of_failure failed (by simp [loaded]) (.inl ⟨code, by simp [loaded]⟩) kept
  · have stands := Directory.isDirectory_of_loadTables ⟨table, named⟩ loaded
    rw [missing] at stands
    cases stands

end

/-- What a call comes to in a directory that exists. -/
theorem reckoning_of_isDirectory (environment : Environment) (directory output indent : String)
    (verbosity : Nat) (timestamp : Option Moment)
    (stands : environment.files.isDirectory (.ofString directory) = .ok true)
    (short : ShortChildren environment.files (.ofString directory))
    (free : '\x00' ∉ output.toList)
    (freeFiles : NulFreeFiles environment.files (.ofString directory) { indent, timestamp }) :
    ∃ call, generate writeTo environment
        ⟨directory, some output, verbosity, some indent, timestamp⟩ = .ok call ∧
      Reckoning environment.files environment.now (.ofString directory) (.ofString output)
        { indent, timestamp } call := by
  have freeOutput : '\x00' ∉ (Path.ofString output).text.toList :=
    (Path.lacks_iff (by decide) (by decide) _).mpr (Path.lacks_ofString (by decide) free)
  obtain ⟨log, worked⟩ := Generate.outcome_compileResources (.ofString directory)
    (.ofString output) { indent, timestamp } ⟨environment.files, environment.now, []⟩
  rw [← work_eq environment directory output indent verbosity timestamp] at worked
  obtain ⟨call, ended, exit, after⟩ := generate_of_work
    ⟨directory, some output, verbosity, some indent, timestamp⟩ stands worked
  dsimp only at exit after
  have made : Made environment.files environment.now (.ofString directory) { indent, timestamp }
      (sourceText environment.files environment.now (.ofString directory) { indent, timestamp }) :=
    Generate.made_sourceText rfl ofString_tableFile ofString_infoFile short freeFiles
  exact ⟨call, ended, reckoning_of_made environment.colored freeOutput stands made exit after⟩

/-- What a call comes to, whatever files there are: it exits with zero if the directory exists, its
tables can be loaded, each patch has a kext, each integer a decimal, and the output path can be
written; with three if a patch has no kext; with two if the text is made and the path cannot be
written; and else with one. -/
theorem generate_reckoning (environment : Environment) (directory output indent : String)
    (verbosity : Nat) (timestamp : Option Moment)
    (reached : environment.files.isDirectory (.ofString directory) ≠ .error .nameTooLong)
    (short : ShortChildren environment.files (.ofString directory))
    (free : '\x00' ∉ output.toList)
    (freeFiles : NulFreeFiles environment.files (.ofString directory) { indent, timestamp }) :
    ∃ call, generate writeTo environment
        ⟨directory, some output, verbosity, some indent, timestamp⟩ = .ok call ∧
      Reckoning environment.files environment.now (.ofString directory) (.ofString output)
        { indent, timestamp } call := by
  rcases looked : environment.files.isDirectory (.ofString directory) with problem | _ | _
  · rw [Tree.eq_nameTooLong_of_isDirectory looked] at looked
    exact absurd looked reached
  · obtain ⟨call, ended, code, kept⟩ := generate_of_missing
      ⟨directory, some output, verbosity, some indent, timestamp⟩ looked
    exact ⟨call, ended, reckoning_of_missing ofString_tableFile looked code kept⟩
  · exact reckoning_of_isDirectory environment directory output indent verbosity timestamp looked
      short free freeFiles

/-! ### Calls on small directories -/

/-- A call that is made of the directory `R`, with the files that there are. -/
def callOn (files : Tree) : Environment := ⟨files, ⟨2018, 9, 1, 12, 0, 0, 0⟩, "12:00:00", false⟩

/-- The settings of a call without options. -/
def plain : Settings := { indent := "\t", timestamp := none }

/-- A directory of empty tables and a bundle with one file. -/
def complete : Tree := ⟨Generate.furnished⟩

theorem ofString_directory : Path.ofString "R" = ⟨"", ["R"]⟩ := by decide +kernel

/-- A call on a directory with all its tables, with the account of its outcome. -/
theorem generate_reckoning_complete : ∃ call,
    generate writeTo (callOn complete) ⟨"R", some "kern_resources.cpp", 0, some "\t", none⟩ =
      .ok call ∧
    Reckoning complete ⟨2018, 9, 1, 12, 0, 0, 0⟩ (.ofString "R") (.ofString "kern_resources.cpp")
      plain call := by
  have stands : complete.resolve (.ofString "R") = .ok (.directory ⟨.above 0, ["R"]⟩) := by
    rw [ofString_directory, Tree.resolve_eq_follow (by decide) (by decide)]
    rfl
  have reached : complete.isDirectory (.ofString "R") ≠ .error .nameTooLong := by
    unfold Tree.isDirectory
    rw [stands]
    exact nofun
  have short : ShortChildren complete (.ofString "R") := by
    intro place same
    rw [stands] at same
    cases same
    decide +kernel
  have freeFiles : NulFreeFiles complete (.ofString "R") plain := by
    unfold NulFreeFiles Generate.decodable
    rw [Directory.findBundles_of_pairwise stands (by decide +kernel)]
    decide +kernel
  exact generate_reckoning (callOn complete) "R" "kern_resources.cpp" "\t" 0 none reached short
    (by decide) freeFiles

/-! ### A number that is too long -/

/-- A directory of empty tables, but for a lookup table with a very large number of controllers. -/
def oversized : Tree :=
  ⟨(⟨.above 0, ["R"]⟩, .directory) ::
    Generate.tablesWith (Plist.Binary.withInteger longDigits)⟩

/-- The tables of the directory load, with the long integer in the first one. -/
theorem loadTables_oversized : ∃ kexts, Tables.load oversized (.ofString "R") plain =
    .ok ⟨[⟨[], Plist.Binary.signedNumber longDigits, false, "N/A"⟩], kexts, []⟩ := by
  have found : oversized.read ⟨"", ["R", "CodecLookup.plist"]⟩ =
      .ok (Plist.Binary.withInteger longDigits) := by
    unfold Tree.read
    rw [Tree.resolve_eq_follow (by decide) (by decide)]
    rfl
  have fields (n : Int) : Decode.LookupFields
      [(.string "Tree", .array []), (.string "controllerNum", .scalar (.int n))]
      ⟨[], n, false, "N/A"⟩ :=
    ⟨rfl, rfl, .inr ⟨rfl, rfl⟩, .inr ⟨rfl, rfl⟩⟩
  have lookup : Directory.load Decode.lookupTable oversized ⟨"", ["R", "CodecLookup.plist"]⟩ =
      .ok [⟨[], Plist.Binary.signedNumber longDigits, false, "N/A"⟩] := by
    refine Directory.load_eq_ok.mpr
      ⟨_, _, found, Plist.Binary.read?_withInteger Plist.Binary.length_longDigits, ?_⟩
    exact (Decode.lookupTable_eq_ok _ _).mpr
      ⟨_, rfl, .cons ⟨_, rfl, fields (Plist.Binary.signedNumber longDigits)⟩ .nil⟩
  have controllers : Directory.load Decode.controllerTable oversized
      ⟨"", ["R", "Controllers.plist"]⟩ = .ok [] := by
    have none : (Directory.load Decode.controllerTable oversized
        ⟨"", ["R", "Controllers.plist"]⟩).toOption.map List.length = some 0 := by
      decide +kernel
    rcases loaded : Directory.load Decode.controllerTable oversized
      ⟨"", ["R", "Controllers.plist"]⟩ with failure | entries
    · rw [loaded] at none
      cases none
    · rw [loaded] at none
      rw [List.length_eq_zero_iff.mp (Option.some.inj none)]
  obtain ⟨kexts, loaded⟩ : ∃ kexts, Directory.load Decode.kextTable oversized
      ⟨"", ["R", "Kexts.plist"]⟩ = .ok kexts :=
    Decode.exists_ok_of_isOk (by decide +kernel)
  have joined (name : String) :
      (Files.Path.mk "" ["R"]).join ⟨"", [name]⟩ = ⟨"", ["R", name]⟩ := rfl
  have controllersNamed : Path.ofString "Controllers.plist" = ⟨"", ["Controllers.plist"]⟩ := by
    decide +kernel
  have kextsNamed : Path.ofString "Kexts.plist" = ⟨"", ["Kexts.plist"]⟩ := by decide +kernel
  refine ⟨kexts, ?_⟩
  unfold Tables.load plain
  dsimp only
  rw [ofString_directory, ofString_tableFile, controllersNamed, kextsNamed, joined, joined, joined,
    lookup, controllers, loaded]
  rfl

theorem resolve_oversized :
    oversized.resolve (.ofString "R") = .ok (.directory ⟨.above 0, ["R"]⟩) := by
  rw [ofString_directory, Tree.resolve_eq_follow (by decide) (by decide)]
  rfl

/-- No bundle is in the directory. -/
theorem decodable_oversized : Generate.decodable oversized (.ofString "R") plain = [] := by
  have none : (Generate.decodable oversized (.ofString "R") plain).length = 0 := by
    unfold Generate.decodable
    rw [Directory.findBundles_of_pairwise resolve_oversized (by decide +kernel)]
    decide +kernel
  exact List.length_eq_zero_iff.mp none

/-- The number is a valid one, but has no decimal: a call exits with one although all tables can be
loaded, all patches have kexts and the output path can be written. -/
theorem generate_oversized :
    oversized.isDirectory (.ofString "R") = .ok true ∧
    (∃ tables, Tables.load oversized (.ofString "R") plain = .ok tables ∧
      ¬ Unresolved oversized (.ofString "R") plain tables) ∧
    oversized.Writable (.ofString "kern_resources.cpp") ∧
    ∃ call, generate writeTo (callOn oversized)
        ⟨"R", some "kern_resources.cpp", 0, some "\t", none⟩ = .ok call ∧ call.exit = 1 := by
  have stands : oversized.isDirectory (.ofString "R") = .ok true := by
    unfold Tree.isDirectory
    rw [resolve_oversized]
  have writable : oversized.Writable (.ofString "kern_resources.cpp") := by
    unfold Tree.Writable
    decide +kernel
  have short : ShortChildren oversized (.ofString "R") := by
    intro place same
    rw [resolve_oversized] at same
    cases same
    decide +kernel
  have freeFiles : NulFreeFiles oversized (.ofString "R") plain := by
    unfold NulFreeFiles
    rw [decodable_oversized]
    exact nofun
  obtain ⟨kexts, loaded⟩ := loadTables_oversized
  have resolved : ¬ Unresolved oversized (.ofString "R") plain
      ⟨[⟨[], Plist.Binary.signedNumber longDigits, false, "N/A"⟩], kexts, []⟩ := by
    unfold Unresolved
    rw [decodable_oversized]
    simp
  obtain ⟨call, ended, reckoning⟩ := reckoning_of_isDirectory (callOn oversized) "R"
    "kern_resources.cpp" "\t" 0 none stands short (by decide) freeFiles
  have inexpressible : ¬ Expressible oversized ⟨2018, 9, 1, 12, 0, 0, 0⟩ (.ofString "R") plain
      ⟨[⟨[], Plist.Binary.signedNumber longDigits, false, "N/A"⟩], kexts, []⟩ := by
    refine Generate.not_expressible_of_lookup rfl ?_ resolved (List.mem_singleton_self _)
      Plist.Binary.le_longDigits
    rw [decodable_oversized]
    exact nofun
  refine ⟨stands, ⟨_, loaded, resolved⟩, writable, call, ended, ?_⟩
  -- The account leaves no other code for a source that cannot be printed.
  have notZero : call.exit ≠ 0 := by
    intro code
    obtain ⟨_, complete, _⟩ := reckoning.zero.mp code
    exact inexpressible ((exists_tables_iff loaded).mp complete).2
  have notTwo : call.exit ≠ 2 := fun code => (reckoning.two.mp code).2 writable
  have notThree : call.exit ≠ 3 := fun code =>
    resolved ((exists_tables_iff loaded).mp (reckoning.three.mp code))
  have other := reckoning.other
  simp only [List.mem_cons, List.not_mem_nil, or_false] at other
  omega

end CodecTables.CommandLine
