import CodecTables.Proofs.Directory.Search
import CodecTables.Proofs.Plist.Binary
import CodecTables.Proofs.Plist.Keys

/-!
# How loading fails

A file that is not loaded is reported with a fault about it, whose code tells at which of three
stages the load failed: the file is opened, read as a property list and decoded (`Ends`). The fault
of a bundle is about its info file at each of them (`BundleEnds`), and that of the tables is the one
of the first table that fails (`loadTables_eq_error`). Only a kext whose name has no text is a
failure of another kind (`load_reports`).
-/

namespace CodecTables

open Decode (KeysHaveText Refusal)
open Files (Path Problem Tree)
open Generate (Settings)
open Plist (Value)
open Report (Code Failure Fault)
open Resource

variable {α : Type}

namespace Directory

/-- The fault is one of loading, and about the file. -/
structure IsAbout (f : Fault) (path : Path) : Prop where
  load : f.isA .load = true
  path : f.path = some path

/-- How loading a file ends, by how far it came: a file that cannot be opened or read, or is no
property list, or describes nothing to the decoder, is reported with a fault about it. -/
inductive Ends (decode : Value → Except Refusal α) (files : Tree) (path : Path) :
    Except Failure α → Prop
  | unreadable {problem : Problem} {f : Fault} (failed : files.read path = .error problem)
      (about : IsAbout f path) (code : f.code = .tableUnreadable) :
      Ends decode files path (.error (.fault f))
  | malformed {bytes : List UInt8} {f : Fault} (read : files.read path = .ok bytes)
      (failed : Plist.read? bytes = none) (about : IsAbout f path)
      (code : f.code = .tableMalformed) : Ends decode files path (.error (.fault f))
  | refused {bytes : List UInt8} {value : Value} {refusal : Refusal} {f : Fault}
      (read : files.read path = .ok bytes) (parsed : Plist.read? bytes = some value)
      (failed : decode value = .error refusal) (about : IsAbout f path)
      (code : f.code ∈ [Code.missingKey, .invalidValue, .invalidPatch]) :
      Ends decode files path (.error (.fault f))
  | loaded {bytes : List UInt8} {value : Value} {content : α} (read : files.read path = .ok bytes)
      (parsed : Plist.read? bytes = some value) (decoded : decode value = .ok content) :
      Ends decode files path (.ok content)

/-- All names of kexts have texts, if the file is a dictionary of kexts. -/
def NamesHaveText (files : Tree) (path : Path) : Prop :=
  ∀ bytes value, files.read path = .ok bytes → Plist.read? bytes = some value → KeysHaveText value

/-- How loading a bundle ends: like loading its info file, but that each fault of the info file is
one of the bundle. -/
inductive BundleEnds (files : Tree) (directory : Path) (infoFile : String) :
    Except Failure CodecBundle → Prop
  | invalid {cause f : Fault}
      (ends : Ends Decode.codecInfo files (directory.join (.ofString infoFile))
        (.error (.fault cause)))
      (category : f.category = .bundle) (code : f.code = .invalidBundle)
      (path : f.path = some (directory.join (.ofString infoFile))) :
      BundleEnds files directory infoFile (.error (.fault f))
  | loaded {info : CodecInfo}
      (ends : Ends Decode.codecInfo files (directory.join (.ofString infoFile)) (.ok info)) :
      BundleEnds files directory infoFile (.ok ⟨info, directory⟩)

section

variable {decode : Value → Except Refusal α} {files : Tree} {path directory : Path}
  {infoFile : String}

/-- How the stages of loading follow each other, where the path does not hold the character
U+0000. -/
theorem load_cases (decode : Value → Except Refusal α) (files : Tree)
    (free : '\x00' ∉ path.text.toList) :
    Ends decode files path (load decode files path) ∨
      ∃ bytes value refusal, files.read path = .ok bytes ∧ Plist.read? bytes = some value ∧
        decode value = .error refusal ∧
        load decode files path = .error (refusal.failure.about path) := by
  rw [load_eq]
  unfold readList
  rcases read : files.read path with problem | bytes
  · have other : problem ≠ .nulInPath := by
      rintro rfl
      exact free (files.read_eq_nulInPath_iff.mp read)
    apply Or.inl
    cases problem with
    | nulInPath => exact absurd rfl other
    | _ => exact .unreadable read ⟨rfl, rfl⟩ rfl
  dsimp only
  rcases parsed : Plist.read? bytes with _ | value
  · exact .inl (.malformed read parsed ⟨rfl, rfl⟩ rfl)
  dsimp only
  rcases decoded : decode value with refusal | content
  · exact .inr ⟨bytes, value, refusal, rfl, parsed, decoded, rfl⟩
  · exact .inl (.loaded read parsed decoded)

/-- A fault of the decoder is told about the file. -/
theorem Ends.of_isFault {bytes : List UInt8} {value : Value} {refusal : Refusal}
    (read : files.read path = .ok bytes) (parsed : Plist.read? bytes = some value)
    (failed : decode value = .error refusal) (fault : refusal.IsFault) :
    Ends decode files path (.error (refusal.failure.about path)) := by
  obtain ⟨f, same, isLoad⟩ := fault
  have code := Refusal.code_of_failure same
  rw [same]
  exact .refused read parsed failed ⟨isLoad, rfl⟩ code

/-- A load of a table ends in one of the ways described. -/
theorem ends_load (faults : ∀ value, Decode.Faults (decode value))
    (free : '\x00' ∉ path.text.toList) : Ends decode files path (load decode files path) := by
  rcases load_cases decode files free with ends | ⟨_, value, refusal, read, parsed, failed, same⟩
  · exact ends
  · rw [same]
    exact .of_isFault read parsed failed (faults value refusal failed)

/-- The kext table is loaded like the others, unless a name has no text. -/
theorem ends_loadKexts (free : '\x00' ∉ path.text.toList) :
    Ends Decode.kextTable files path (load Decode.kextTable files path) ∨
      load Decode.kextTable files path = .error (.excess .digits) ∧ ¬ NamesHaveText files path := by
  rcases load_cases Decode.kextTable files free with
    ends | ⟨bytes, value, refusal, read, parsed, failed, same⟩
  · exact .inl ends
  rw [same]
  rcases Decode.kextTable_refused (Plist.keysDistinct_of_read? parsed) failed with
    fault | ⟨rfl, mute⟩
  · exact .inl (.of_isFault read parsed failed fault)
  · exact .inr ⟨rfl, fun speak => mute (speak bytes value read parsed)⟩

/-- A first name without a text is a failure of its own, which is about no file. -/
theorem load_kextTable_of_mute {bytes : List UInt8} {entry : Plist.Scalar × Value}
    {rest : Decode.Record} (read : files.read path = .ok bytes)
    (parsed : Plist.read? bytes = some (.dict (entry :: rest))) (mute : ¬ Decode.HasText entry.1) :
    load Decode.kextTable files path = .error (.excess .digits) := by
  have list : readList files path = .ok (.dict (entry :: rest)) := by
    unfold readList
    rw [read]
    dsimp only
    rw [parsed]
  rw [load_eq, list]
  dsimp only
  rw [Decode.kextTable_of_mute mute]
  rfl

theorem Ends.isAbout {f : Fault} (ends : Ends decode files path (.error (.fault f))) :
    IsAbout f path := by
  cases ends with
  | unreadable _ about _ => exact about
  | malformed _ _ about _ => exact about
  | refused _ _ _ about _ => exact about

/-- A load of a bundle ends in one of the ways described. -/
theorem ends_loadBundle (free : '\x00' ∉ (directory.join (.ofString infoFile)).text.toList) :
    BundleEnds files directory infoFile (loadBundle files directory infoFile) := by
  have ends := @ends_load _ _ files _ Decode.faults_codecInfo free
  rcases loadBundle_cases files directory infoFile with ⟨info, loaded, same⟩ | ⟨cause, failed, same⟩
  · rw [loaded] at ends
    rw [same]
    exact .loaded ends
  · rw [failed] at ends
    rw [same]
    exact .invalid ends rfl rfl ends.isAbout.path

/-- A path made of two parts without the character U+0000 does not hold it either. -/
theorem notMem_join (first : '\x00' ∉ directory.text.toList) (second : '\x00' ∉ infoFile.toList) :
    '\x00' ∉ (directory.join (.ofString infoFile)).text.toList := by
  rw [Path.lacks_iff (by decide) (by decide)] at first ⊢
  exact Path.lacks_join first (Path.lacks_ofString (by decide) second)

end

/-! ### All that is loaded -/

/-- A file that is not loaded is reported with a fault about it, and so is the info file of a
bundle; loading the tables fails as the first of them does. The exception is a dictionary of kexts
with a name that has no text, where the failure may be that the name has too many digits. -/
theorem load_reports (files : Tree) (settings : Settings) {path directory : Path}
    {infoFile : String} (free : '\x00' ∉ path.text.toList)
    (outer : '\x00' ∉ directory.text.toList) (inner : '\x00' ∉ infoFile.toList) :
    let file (name : String) := directory.join (.ofString name)
    let lookup := load Decode.lookupTable files (file settings.codecLookupFile)
    let controllers := load Decode.controllerTable files (file settings.controllersFile)
    let kexts := load Decode.kextTable files (file settings.kextsFile)
    Ends Decode.lookupTable files path (load Decode.lookupTable files path) ∧
      Ends Decode.controllerTable files path (load Decode.controllerTable files path) ∧
      (Ends Decode.kextTable files path (load Decode.kextTable files path) ∨
        load Decode.kextTable files path = .error (.excess .digits) ∧
          ¬ NamesHaveText files path) ∧
      BundleEnds files directory infoFile (loadBundle files directory infoFile) ∧
      (∀ tables, Tables.load files directory settings = .ok tables ↔
        lookup = .ok tables.lookup ∧ controllers = .ok tables.controllers ∧
          kexts = .ok tables.kexts) ∧
      ∀ failure, Tables.load files directory settings = .error failure ↔
        lookup = .error failure ∨ (∃ entries, lookup = .ok entries) ∧
          (controllers = .error failure ∨ (∃ entries, controllers = .ok entries) ∧
            kexts = .error failure) :=
  ⟨ends_load Decode.faults_lookupTable free, ends_load Decode.faults_controllerTable free,
    ends_loadKexts free, ends_loadBundle (notMem_join outer inner),
    loadTables_eq_ok files directory settings, loadTables_eq_error files directory settings⟩

/-- A file that is not there is reported as one that cannot be read. -/
theorem load_reports_missing :
    let path : Path := ⟨"", ["CodecLookup.plist"]⟩
    '\x00' ∉ path.text.toList ∧ '\x00' ∉ "Info.plist".toList ∧
      ∃ f, load Decode.lookupTable .empty path = .error (.fault f) ∧ IsAbout f path ∧
        f.code = .tableUnreadable := by
  intro path
  have free : '\x00' ∉ path.text.toList := by decide +kernel
  have plain : '\x00' ∉ "Info.plist".toList := by decide +kernel
  have absent : Tree.empty.read path = .error .notFound := by decide +kernel
  refine ⟨free, plain, ?_⟩
  have ends := (load_reports .empty {} free free plain).1
  generalize load Decode.lookupTable .empty path = result at ends
  cases ends with
  | unreadable _ about code => exact ⟨_, rfl, about, code⟩
  | malformed read | refused read | loaded read =>
    rw [absent] at read
    cases read

/-- A directory with a table of one kext, whose name is an integer with too many digits. -/
def longNamed : Tree where
  entries := [(⟨.above 0, ["Kexts.plist"]⟩, .file (Plist.Binary.withKey Plist.Binary.longDigits))]

/-- A kext with too long a name is no fault, so the failure does not tell the file. -/
theorem load_longNamed_no_fault :
    let path : Path := ⟨"", ["Kexts.plist"]⟩
    '\x00' ∉ path.text.toList ∧
      load Decode.kextTable longNamed path = .error (.excess .digits) ∧
      ¬ Ends Decode.kextTable longNamed path (load Decode.kextTable longNamed path) := by
  intro path
  have free : '\x00' ∉ path.text.toList := by decide +kernel
  have read : longNamed.read path = .ok (Plist.Binary.withKey Plist.Binary.longDigits) := by
    unfold Tree.read
    rw [Tree.resolve_eq_follow free (by decide)]
    rfl
  have failed : load Decode.kextTable longNamed path = .error (.excess .digits) :=
    load_kextTable_of_mute read (Plist.Binary.read?_withKey Plist.Binary.length_longDigits)
      (Decode.not_hasText_of_le Plist.Binary.le_longDigits)
  refine ⟨free, failed, fun ends => ?_⟩
  rw [failed] at ends
  cases ends

end Directory

end CodecTables
