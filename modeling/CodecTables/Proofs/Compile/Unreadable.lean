import CodecTables.Decode.Tables
import CodecTables.Plist.Document
import CodecTables.Proofs.Compile.Obstacle
import CodecTables.Proofs.Decode.Fields
import CodecTables.Proofs.Files.Characters

/-!
# Codec files that cannot be read

A codec file that cannot be read is warned of and stands as a null pointer in its row, and nothing
else of the state is changed (`outcome_codecFile_of_error`). But a path that holds the character
U+0000 stops compiling, since it is refused before any file is looked for
(`outcome_codecFile_of_holdsNul`). Only the binary form of property lists can hold such a path.
-/

namespace CodecTables

open Files (Path Problem Tree)
open Resource
open Source (Node)

namespace Resource

/-- The path of the file from the directory holds the character U+0000: the file's own path does, or
the directory, unless the path is one from the root. -/
def CodecFile.HoldsNul (directory : Path) (file : CodecFile) : Prop :=
  '\x00' ∈ file.path.toList ∨
    (Path.ofString file.path).root.isEmpty = true ∧ '\x00' ∈ directory.text.toList

instance (directory : Path) (file : CodecFile) : Decidable (file.HoldsNul directory) :=
  inferInstanceAs (Decidable (_ ∨ _))

theorem CodecFile.mem_text_iff {directory : Path} {file : CodecFile} :
    '\x00' ∈ (directory.join (.ofString file.path)).text.toList ↔ file.HoldsNul directory := by
  have slash : '\x00' ≠ '/' := by decide
  have point : '\x00' ≠ '.' := by decide
  have lacks (p : Path) := Path.lacks_iff slash point p
  unfold CodecFile.HoldsNul
  rw [← not_iff_not, lacks, Path.lacks_join_iff, Path.lacks_ofString_iff slash point, ← lacks,
    not_or, not_and]

/-- The path of the file holds the character if and only if it is refused for it. -/
theorem CodecFile.read_eq_nulInPath_iff (files : Tree) {directory : Path} {file : CodecFile} :
    files.read (directory.join (.ofString file.path)) = .error .nulInPath ↔
      file.HoldsNul directory := by
  rw [Tree.read_eq_nulInPath_iff, CodecFile.mem_text_iff]

/-- The row of a file that cannot be read. -/
def CodecFile.missingRow (file : CodecFile) : Node :=
  .literal
    [.nullPointer, .integer 0, .integer file.minKernel, .integer file.maxKernel, .integer file.id]

/-- What is said of a file that cannot be read. -/
def CodecFile.complaint (directory : Path) (file : CodecFile) (problem : Problem) : Report.Record :=
  ⟨.warning, .compiler,
    "Failed to read the requested file " ++ Text.quoted file.path ++ " in " ++ directory.text ++
      ": " ++ problem.reason⟩

end Resource

namespace Compile

variable {files : Tree} {file : CodecFile} {s : State}

/-- A file that cannot be read changes nothing but the log. -/
theorem outcome_codecFile_of_error {problem : Problem} (sound : ¬ file.HoldsNul s.directory)
    (refused : files.read (s.directory.join (.ofString file.path)) = .error problem) :
    outcome (codecFile buffer files file) s =
      (.ok file.missingRow,
        { s with log := s.log ++ [file.complaint s.directory problem] }) := by
  have other : problem ≠ .nulInPath := by
    rintro rfl
    exact sound ((CodecFile.read_eq_nulInPath_iff files).mp refused)
  exact (takes_codecFile_of_error refused).mpr ⟨other, rfl, rfl⟩

/-- A path with the character U+0000 stops compiling, and leaves the state as it was. -/
theorem outcome_codecFile_of_holdsNul (holds : file.HoldsNul s.directory) :
    outcome (codecFile buffer files file) s = (.error .nulInPath, s) :=
  outcome_codecFile_of_nulInPath ((CodecFile.read_eq_nulInPath_iff files).mpr holds)

/-- Unless its path holds the character U+0000, a codec file never stops compiling: it gives a row,
and if it cannot be read, the row is that of a missing file and nothing but one warning is added to
the state. -/
theorem codecFile_fails_softly (files : Tree) (file : CodecFile) (s : State) :
    (stopOf (codecFile buffer files file) s = none ↔ ¬ file.HoldsNul s.directory) ∧
      ∀ problem, files.read (s.directory.join (.ofString file.path)) = .error problem →
        ¬ file.HoldsNul s.directory →
        outcome (codecFile buffer files file) s =
          (.ok file.missingRow,
            { s with log := s.log ++ [file.complaint s.directory problem] }) := by
  refine ⟨⟨fun goes holds => ?_, fun sound => ?_⟩,
    fun problem refused sound => outcome_codecFile_of_error sound refused⟩
  · rw [stopOf, outcome_codecFile_of_holdsNul holds] at goes
    cases goes
  · cases found : files.read (s.directory.join (.ofString file.path)) with
    | error problem => rw [stopOf, outcome_codecFile_of_error sound found]
    | ok bytes =>
      obtain ⟨name, t, stored⟩ := exists_takes_buffer bytes "file" s
      exact stopOf_of_takes ((takes_codecFile_of_ok found).mpr ⟨name, stored, rfl⟩)

/-- A layout that is not there. -/
def missingLayout : CodecFile := ⟨7, "layout7.xml.zlib", 1, 2⟩

/-- A layout that is missing is told without content, and complained of. -/
theorem codecFile_fails_softly_missing : ∃ problem,
    outcome (codecFile buffer .empty missingLayout) (.start [] (.start none) .empty) =
      (.ok (.literal [.nullPointer, .integer 0, .integer 1, .integer 2, .integer 7]),
        { State.start [] (.start none) .empty with
          log := [missingLayout.complaint .here problem] }) := by
  obtain ⟨problem, refused⟩ : ∃ problem,
      Tree.empty.read (Path.here.join (.ofString missingLayout.path)) = .error problem :=
    Decode.exists_error_of_isOk_eq_false (by decide +kernel)
  have sound : ¬ missingLayout.HoldsNul .here := by decide +kernel
  have missing := (codecFile_fails_softly .empty missingLayout
    (.start [] (.start none) .empty)).2 problem refused sound
  exact ⟨problem, missing⟩

/-- A binary property list of a codec with one layout, in whose path U+0000 stands between two
letters. -/
def nulInLayout : List UInt8 :=
  [98, 112, 108, 105, 115, 116, 48, 48, 212, 1, 2, 3, 4, 5, 6, 7, 8, 86, 86, 101, 110, 100, 111,
    114, 89, 67, 111, 100, 101, 99, 78, 97, 109, 101, 87, 67, 111, 100, 101, 99, 73, 68, 85, 70,
    105, 108, 101, 115, 87, 82, 101, 97, 108, 116, 101, 107, 86, 65, 76, 67, 56, 56, 55, 16, 5, 209,
    9, 10, 87, 76, 97, 121, 111, 117, 116, 115, 161, 11, 210, 12, 13, 14, 15, 82, 73, 100, 84, 80,
    97, 116, 104, 16, 7, 83, 97, 0, 98, 8, 17, 24, 34, 42, 48, 56, 63, 65, 68, 76, 78, 83, 86, 91,
    93, 0, 0, 0, 0, 0, 0, 1, 1, 0, 0, 0, 0, 0, 0, 0, 16, 0, 0, 0, 0, 0, 0, 0, 0, 0, 0, 0, 0, 0, 0,
    0, 97]

/-- The layouts of the codec that a property list describes. -/
def layoutsOf? (bytes : List UInt8) : Option (List CodecFile) := do
  let value ← Plist.read? bytes
  let info ← (Decode.codecInfo value).toOption
  return info.files.layouts

theorem layoutsOf?_eq_some {bytes : List UInt8} {layouts : List CodecFile} :
    layoutsOf? bytes = some layouts ↔ ∃ value info, Plist.read? bytes = some value ∧
      Decode.codecInfo value = .ok info ∧ info.files.layouts = layouts := by
  unfold layoutsOf?
  cases Plist.read? bytes with
  | none => simp
  | some value => cases h : Decode.codecInfo value <;> simp [h, Except.toOption]

/-- A codec can have a file that cannot be read and stops compiling. -/
theorem codecFile_nul_stops : ∃ value info file,
    Plist.read? nulInLayout = some value ∧ Decode.codecInfo value = .ok info ∧
      file ∈ info.files.layouts ∧
      Tree.empty.read (Path.here.join (.ofString file.path)) = .error .nulInPath ∧
      stopOf (codecFile buffer .empty file) (.start [] (.start none) .empty) = some .nulInPath := by
  have paths : (layoutsOf? nulInLayout).map (fun files => files.map CodecFile.path) =
      some ["a\x00b"] := by decide +kernel
  obtain ⟨files, found, listed⟩ := Option.map_eq_some_iff.mp paths
  obtain ⟨value, info, read, decoded, layouts⟩ := layoutsOf?_eq_some.mp found
  obtain ⟨file, single, path⟩ := List.map_eq_singleton_iff.mp listed
  have holds : file.HoldsNul .here := by
    unfold CodecFile.HoldsNul
    rw [path]
    exact .inl (by decide)
  refine ⟨value, info, file, read, decoded, ?_, ?_, ?_⟩
  · rw [layouts, single]
    exact List.mem_singleton_self file
  · exact (CodecFile.read_eq_nulInPath_iff .empty).mpr holds
  · have stopped : outcome (codecFile buffer .empty file) (.start [] (.start none) .empty) =
        (.error .nulInPath, .start [] (.start none) .empty) := outcome_codecFile_of_holdsNul holds
    rw [stopOf, stopped]

end Compile

end CodecTables
