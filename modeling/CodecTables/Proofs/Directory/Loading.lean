import CodecTables.Directory.Table
import CodecTables.Proofs.Files.Characters
import CodecTables.Proofs.Files.Lookup

/-!
# Loading a table

A file is loaded in two steps (`load_eq`), and the tables one after the other (`loadTables_eq_ok`,
`loadTables_eq_error`). What keeps them from being loaded is told apart from every failure of
compiling and of writing (`ofLoading_of_loadTables`). Tables that are loaded are in a directory that
exists (`isDirectory_of_loadTables`).
-/

namespace CodecTables

open Decode (Refusal)
open Files (Location Path Target Tree)
open Generate (Settings)
open Plist (Value)
open Report (Category Failure Fault)

namespace Files

namespace Path

theorem utf8ByteSize_intercalate_le (names : List String) (last : String) :
    ("/".intercalate names).utf8ByteSize ≤ ("/".intercalate (names ++ [last])).utf8ByteSize := by
  by_cases some : names = []
  · rw [some]
    exact Nat.zero_le _
  · have before := utf8ByteSize_intercalate some
    have after := utf8ByteSize_intercalate (List.concat_ne_nil last names)
    rw [List.map_append, List.sum_append_nat] at after
    omega

/-- A directory in which a path is not too long is not too long either. -/
theorem short_of_child {p : Path} {last : String}
    (short : (p.child last).text.utf8ByteSize ≤ Tree.maxPath) :
    p.text.utf8ByteSize ≤ Tree.maxPath := by
  have some : (p.child last).names.isEmpty = false :=
    List.isEmpty_eq_false_iff.mpr (List.concat_ne_nil last p.names)
  unfold text at short ⊢
  rw [some, Bool.and_false, if_neg Bool.false_ne_true, String.utf8ByteSize_append] at short
  split
  · decide
  · rw [String.utf8ByteSize_append]
    have grows := utf8ByteSize_intercalate_le p.names last
    have bound : p.root.utf8ByteSize + ("/".intercalate (p.names ++ [last])).utf8ByteSize ≤
        Tree.maxPath := short
    omega

theorem lacks_of_child {c : Char} {p : Path} {last : String} (lacks : (p.child last).Lacks c) :
    p.Lacks c :=
  ⟨lacks.1, fun name member => lacks.2 name (List.mem_append_left _ member)⟩

end Path

namespace Tree

variable {tree : Tree} {directory : Location} {path : Path}

/-- A path that leads somewhere holds no U+0000 and is not too long. -/
theorem free_of_resolve {target : Target} (found : tree.resolve path = .ok target) :
    '\x00' ∉ path.text.toList ∧ path.text.utf8ByteSize ≤ maxPath := by
  unfold resolve at found
  split at found
  · cases found
  · next free =>
    split at found
    · cases found
    · next short => exact ⟨by simpa using free, Nat.not_lt.mp short⟩

/-- Whatever a chain of names leads to, all but the last lead to a directory. -/
theorem follow_init {names : List String} {last : String} {target : Target}
    (found : tree.follow directory (names ++ [last]) = .ok target) :
    ∃ place, tree.follow directory names = .ok (.directory place) := by
  induction names generalizing directory with
  | nil => exact ⟨directory, rfl⟩
  | cons name rest ih =>
    rw [List.cons_append, follow] at found
    rw [follow]
    rcases step : tree.step directory name with problem | next | ⟨next, content⟩ | next
    · rw [step] at found
      cases found
    · rw [step] at found
      exact ih found
    · rw [step] at found
      cases rest <;> cases found
    · rw [step] at found
      cases rest <;> cases found

/-- What can be found in a directory is in a directory that exists. -/
theorem isDirectory_of_resolve_child {last : String} {target : Target}
    (found : tree.resolve (path.child last) = .ok target) : tree.isDirectory path = .ok true := by
  obtain ⟨free, short⟩ := free_of_resolve found
  rw [Path.lacks_iff (by decide) (by decide)] at free
  obtain ⟨place, stands⟩ := follow_init (follow_of_resolve found)
  unfold isDirectory
  have free := (Path.lacks_iff (by decide) (by decide) path).mpr (Path.lacks_of_child free)
  rw [resolve_eq_follow free (Path.short_of_child short),
    show tree.follow (.start path) path.names = _ from stands]

end Tree

end Files

namespace Directory

variable {α : Type} {decode : Value → Except Refusal α} {files : Tree} {path : Path}

/-- The failure is a fault of loading or a mishap, and not an interruption. -/
def OfLoading : Failure → Prop
  | .fault f => f.isA .load = true
  | .interrupted => False
  | _ => True

/-- A failure of loading stays one when the file is added to it. -/
theorem ofLoading_about {failure : Failure} (ofLoading : OfLoading failure) (path : Path) :
    OfLoading (failure.about path) := by
  cases failure <;> exact ofLoading

theorem ofLoading_refusal (refusal : Refusal) : OfLoading refusal.failure := by
  cases refusal <;> first | rfl | trivial

theorem ofLoading_readList {cause : Fault} (failed : readList files path = .error cause) :
    OfLoading (.fault cause) := by
  unfold readList at failed
  split at failed
  · cases failed
    rfl
  · cases failed
    rfl
  · split at failed
    · cases failed
    · cases failed
      rfl

/-- A file is read as a property list, and the list is decoded. -/
theorem load_eq (decode : Value → Except Refusal α) (files : Tree) (path : Path) :
    load decode files path =
      match readList files path with
      | .error cause => .error (.fault cause)
      | .ok value => (decode value).mapError fun refusal => refusal.failure.about path := by
  unfold load
  rcases readList files path with cause | value
  · rfl
  · dsimp only [Except.mapError, bind, Except.bind]
    rcases decode value with refusal | content <;> rfl

/-- A load fails where the file is read as a list, or where the list is decoded. -/
theorem load_eq_error {failure : Failure} (failed : load decode files path = .error failure) :
    (∃ cause, readList files path = .error cause ∧ failure = .fault cause) ∨
      ∃ value refusal, readList files path = .ok value ∧ decode value = .error refusal ∧
        failure = refusal.failure.about path := by
  rw [load_eq] at failed
  rcases read : readList files path with cause | value
  · rw [read] at failed
    exact .inl ⟨cause, rfl, (Except.error.inj failed).symm⟩
  · rw [read] at failed
    dsimp only at failed
    rcases decoded : decode value with refusal | content
    · rw [decoded] at failed
      exact .inr ⟨value, refusal, rfl, decoded, (Except.error.inj failed).symm⟩
    · rw [decoded] at failed
      cases failed

/-- Loading a table fails with failures of loading only. -/
theorem ofLoading_of_load {failure : Failure} (failed : load decode files path = .error failure) :
    OfLoading failure := by
  rcases load_eq_error failed with ⟨cause, read, rfl⟩ | ⟨value, refusal, _, _, rfl⟩
  · exact ofLoading_readList read
  · exact ofLoading_about (ofLoading_refusal refusal) path

/-- What is loaded is what is read and decoded. -/
theorem load_eq_ok {content : α} :
    load decode files path = .ok content ↔ ∃ bytes value, files.read path = .ok bytes ∧
      Plist.read? bytes = some value ∧ decode value = .ok content := by
  rw [load_eq]
  unfold readList
  rcases files.read path with problem | bytes
  · cases problem <;> simp
  dsimp only
  rcases parsed : Plist.read? bytes with _ | value
  · simp [parsed]
  dsimp only
  rcases decoded : decode value with refusal | found <;> simp [Except.mapError, parsed, decoded]

/-- A table that was loaded is from a file that can be read. -/
theorem read_of_load {content : α} (loaded : load decode files path = .ok content) :
    ∃ bytes, files.read path = .ok bytes := by
  obtain ⟨bytes, _, read, _⟩ := load_eq_ok.mp loaded
  exact ⟨bytes, read⟩

/-- What is loaded from a file is loaded on each path on which the same is read. -/
theorem load_of_read {other : Path} {content : α} (same : files.read other = files.read path)
    (loaded : load decode files path = .ok content) : load decode files other = .ok content := by
  rw [load_eq_ok] at loaded ⊢
  rwa [same]

/-! ### The tables -/

section Tables

variable (files : Tree) (directory : Path) (settings : Settings)

/-- The tables are loaded if each of them is. -/
theorem loadTables_eq_ok (tables : Tables) :
    let file (name : String) := directory.join (.ofString name)
    Tables.load files directory settings = .ok tables ↔
      load Decode.lookupTable files (file settings.codecLookupFile) = .ok tables.lookup ∧
        load Decode.controllerTable files (file settings.controllersFile) =
          .ok tables.controllers ∧
        load Decode.kextTable files (file settings.kextsFile) = .ok tables.kexts := by
  obtain ⟨lookup, kexts, controllers⟩ := tables
  unfold Tables.load
  dsimp only [bind, Except.bind]
  rcases load Decode.lookupTable files _ with _ | _
  · simp
  rcases load Decode.controllerTable files _ with _ | _
  · simp
  rcases load Decode.kextTable files _ with _ | _
  · simp
  · simp [pure, Except.pure, and_comm]

/-- The failure of the tables is that of the first one that fails. -/
theorem loadTables_eq_error (failure : Failure) :
    let file (name : String) := directory.join (.ofString name)
    Tables.load files directory settings = .error failure ↔
      load Decode.lookupTable files (file settings.codecLookupFile) = .error failure ∨
        (∃ lookup, load Decode.lookupTable files (file settings.codecLookupFile) = .ok lookup) ∧
          (load Decode.controllerTable files (file settings.controllersFile) = .error failure ∨
            (∃ controllers, load Decode.controllerTable files (file settings.controllersFile) =
                .ok controllers) ∧
              load Decode.kextTable files (file settings.kextsFile) = .error failure) := by
  unfold Tables.load
  dsimp only [bind, Except.bind]
  rcases load Decode.lookupTable files _ with _ | _
  · simp
  rcases load Decode.controllerTable files _ with _ | _
  · simp
  rcases load Decode.kextTable files _ with _ | _
  · simp
  · simp [pure, Except.pure]

end Tables

variable {directory : Path} {settings : Settings}

/-- Loading the three tables fails with failures of loading only. -/
theorem ofLoading_of_loadTables {failure : Failure}
    (failed : Tables.load files directory settings = .error failure) : OfLoading failure := by
  rcases (loadTables_eq_error files directory settings failure).mp failed with
    lookup | ⟨_, controllers | ⟨_, kexts⟩⟩
  · exact ofLoading_of_load lookup
  · exact ofLoading_of_load controllers
  · exact ofLoading_of_load kexts

/-- Tables that are loaded from files with plain names are in a directory that exists. -/
theorem isDirectory_of_loadTables {tables : Tables}
    (named : ∃ name, .ofString settings.codecLookupFile = Files.Path.mk "" [name])
    (loaded : Tables.load files directory settings = .ok tables) :
    files.isDirectory directory = .ok true := by
  obtain ⟨name, named⟩ := named
  obtain ⟨found, _⟩ := (loadTables_eq_ok files directory settings tables).mp loaded
  dsimp only at found
  rw [named] at found
  obtain ⟨bytes, read⟩ := read_of_load found
  have there : directory.join ⟨"", [name]⟩ = directory.child name := rfl
  rw [there] at read
  unfold Tree.read at read
  rcases resolved : files.resolve (directory.child name) with problem | target
  · rw [resolved] at read
    cases read
  · exact Tree.isDirectory_of_resolve_child resolved

end Directory

end CodecTables
