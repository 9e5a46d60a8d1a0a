import CodecTables.Proofs.Generate.Build

/-!
# Counts of generated arrays

A row that refers to an array gives the number of its elements beside it. The two are compiled
apart: the number comes from the resource and the array is declared elsewhere, possibly for another
row with the same bytes. In a source that is built they agree (`Counted`).
-/

namespace CodecTables.Generate

open Compile
open Data.Sha256 (hexDigest)
open Files (Path)
open Resource (VendorGroup)
open Source (Node)

/-- The arrays that a row of a struct type refers to, each with the number that the row gives for
it. -/
def countedPairs : String → Node → Option (List (Node × Node))
  | "CodecLookupInfo", .literal [tree, depth, _, _] => some [(tree, depth)]
  | "KernelPatcher::KextInfo", .literal [_, paths, count, _, _, _] => some [(paths, count)]
  | "KextPatch", .literal [.literal [_, find, replace, size, _], _, _] =>
    some [(find, size), (replace, size)]
  | "CodecModInfo::File", .literal [content, size, _, _, _] => some [(content, size)]
  | "CodecModInfo", .literal [_, _, revisions, revisionCount, platforms, platformCount, layouts,
      layoutCount, patches, patchCount] =>
    some [(revisions, revisionCount), (platforms, platformCount), (layouts, layoutCount),
      (patches, patchCount)]
  | "VendorModInfo", .literal [_, _, codecs, count] => some [(codecs, count)]
  | "ControllerModInfo", .literal [_, _, _, revisions, revisionCount, _, _, patches, patchCount] =>
    some [(revisions, revisionCount), (patches, patchCount)]
  | _, _ => none

/-- The number is that of the elements of the array: zero for a null pointer, and for a name that of
its only declaration. -/
def Agrees (source : List Node) (pair : Node × Node) : Prop :=
  (pair.1 = .nullPointer ∧ pair.2 = .integer 0) ∨
    ∃ name declaration value elements, pair.1 = .identifier name ∧
      Source.declarations source name = [declaration] ∧ declaration.value? = some value ∧
      value.parts? = some elements ∧ pair.2 = .integer elements.length

/-- The struct types of the tables, with the tables' names. -/
def tableTypes : List (String × String) :=
  [("CodecLookupInfo", lookupTableName), ("KernelPatcher::KextInfo", defaultKextTable),
    ("VendorModInfo", vendorTableName), ("ControllerModInfo", controllerTableName)]

/-- The names of the tables and of the numbers of their rows. -/
def tableNames : List String := tableTypes.flatMap fun table => [table.2, sizeName table.2]

/-- All numbers of elements in a source agree with the arrays, and those of rows with the tables. -/
structure Counted (source : List Node) : Prop where
  rows : ∀ struct rows declared isStatic isConstant,
    .assign (.declarator (Source.structArray struct) declared isStatic isConstant)
      (.literal rows) ∈ source →
    ∀ row ∈ rows, ∃ pairs, countedPairs struct row = some pairs ∧
      ∀ pair ∈ pairs, Agrees source pair
  tables : ∀ table ∈ tableTypes, ∃ rows,
    Source.declarations source table.2 =
      [.declare (Source.structArray table.1) table.2 (.literal rows)] ∧
    Source.declarations source (sizeName table.2) =
      [.declareConst .sizeType (sizeName table.2) (.integer rows.length)]

/-! ### References -/

section References

variable {among : List UInt8 → Prop} {s : State} {r : Reading}

/-- A source in which each name is declared once, and whose arrays of bytes are known. -/
structure Closed (among : List UInt8 → Prop) (s : State) (held : List (List UInt8 × String)) :
    Prop where
  once : ∀ name, (Source.declaredNames s.statements).count name ≤ 1
  holds : Holds s held
  known : ∀ array ∈ held, among array.1
  apart : ∀ {data data'}, among data → among data' → hexDigest data = hexDigest data' → data = data'

variable {held : List (List UInt8 × String)} (closed : Closed among s held)

include closed

/-- A count agrees with a declaration whose value has so many parts. -/
theorem agrees_of_declared {name : String} {declaration value : Node} {elements : List Node}
    (member : declaration ∈ s.statements) (declared : declaration.declares? = some name)
    (holdsValue : declaration.value? = some value) (parts : value.parts? = some elements) :
    Agrees s.statements (.identifier name, .integer elements.length) :=
  .inr ⟨name, declaration, value, elements, rfl,
    Source.declarations_eq_singleton member declared (closed.once name), holdsValue, parts, rfl⟩

/-- A count agrees with the name of an array of so many elements. -/
theorem agrees_of_names (same : r.source = s.statements) {element node : Node}
    {elements : List Node} (names : r.Names element elements node) :
    Agrees s.statements (node, .integer elements.length) := by
  obtain ⟨name, rfl, member⟩ := names
  rw [same] at member
  exact agrees_of_declared closed member rfl rfl rfl

/-- The array of known bytes has as many elements as there are bytes. -/
theorem agrees_of_refers {data : List UInt8} {node : Node} {name : String} (member : among data)
    (found : s.buffers.lookup (hexDigest data) = some name) (same : node = .identifier name) :
    Agrees s.statements (node, .integer data.length) := by
  obtain ⟨array, inside, digest, rfl⟩ := closed.holds.lookup found
  have bytes : array.1 = data := closed.apart (closed.known array inside) member digest
  have declared : Source.declareBytes data array.2 ∈ Source.byteArrays s.statements := by
    rw [closed.holds.arrays, ← bytes]
    exact List.mem_map.mpr ⟨array, inside, rfl⟩
  rw [same]
  have agrees := agrees_of_declared closed (List.mem_filter.mp declared).1 rfl rfl rfl
  rwa [List.length_map] at agrees

/-- The count of revisions agrees with their array. -/
theorem agrees_of_revisionArray (same : r.source = s.statements) {codes : List Int} {node : Node}
    (array : r.RevisionArray codes node) : Agrees s.statements (node, .integer codes.length) := by
  rcases array with ⟨rfl, rfl⟩ | ⟨_, names⟩
  · exact .inl ⟨rfl, rfl⟩
  · have agrees := agrees_of_names closed same names
    rwa [List.length_map] at agrees

/-- The count of patches agrees with their array. -/
theorem agrees_of_patchArray (same : r.source = s.statements) {list : List Resource.Patch}
    {node : Node} (array : r.PatchArray list node) :
    Agrees s.statements (node, .integer list.length) := by
  obtain ⟨rows, each, names⟩ := array
  rw [each.length_eq]
  exact agrees_of_names closed same names

theorem agrees_of_fileArray (same : r.source = s.statements) {directory : Path}
    {list : List Resource.CodecFile} {node : Node} (array : r.FileArray directory list node) :
    Agrees s.statements (node, .integer list.length) := by
  obtain ⟨rows, each, names⟩ := array
  rw [each.length_eq]
  exact agrees_of_names closed same names

/-- The two buffers of a patch have one size. -/
theorem counted_of_patchRow {files : Files.Tree} {p : Resource.Patch} {row : Node}
    (reads : (s.reading among files).loose.PatchRow p row) :
    ∃ pairs, countedPairs "KextPatch" row = some pairs ∧
      ∀ pair ∈ pairs, Agrees s.statements pair := by
  obtain ⟨place, find, replace, _, ⟨member, name, found, same⟩, ⟨member', name', found', same'⟩,
    rfl⟩ := reads
  refine ⟨_, rfl, fun pair inside => ?_⟩
  rcases List.mem_cons.mp inside with rfl | inside
  · exact agrees_of_refers closed member found same
  · rw [List.mem_singleton.mp inside]
    have agrees := agrees_of_refers closed member' found' same'
    rw [← p.sizes] at agrees
    exact agrees

theorem counted_of_fileRow {files : Files.Tree} {directory : Path} {file : Resource.CodecFile}
    {row : Node} (reads : (s.reading among files).loose.FileRow directory file row) :
    ∃ pairs, countedPairs "CodecModInfo::File" row = some pairs ∧
      ∀ pair ∈ pairs, Agrees s.statements pair := by
  obtain ⟨content, size, holds, rfl⟩ := reads
  refine ⟨_, rfl, fun pair inside => ?_⟩
  rw [List.mem_singleton.mp inside]
  generalize (s.reading among files).loose.files.read _ = read at holds
  cases holds with
  | present refers =>
    obtain ⟨member, name, found, same⟩ := refers
    exact agrees_of_refers closed member found same
  | absent problem => exact .inl ⟨rfl, rfl⟩

theorem counted_of_codecRow {files : Files.Tree} {directory : Path} {info : Resource.CodecInfo}
    {row : Node} (reads : (s.reading among files).loose.CodecRow directory info row) :
    ∃ pairs, countedPairs "CodecModInfo" row = some pairs ∧
      ∀ pair ∈ pairs, Agrees s.statements pair := by
  obtain ⟨layouts, platforms, patches, revisions, laid, platformed, patched, revised, rfl⟩ := reads
  refine ⟨_, rfl, fun pair inside => ?_⟩
  simp only [List.mem_cons, List.not_mem_nil, or_false] at inside
  rcases inside with rfl | rfl | rfl | rfl
  · exact agrees_of_revisionArray closed rfl revised
  · exact agrees_of_fileArray closed rfl platformed
  · exact agrees_of_fileArray closed rfl laid
  · exact agrees_of_patchArray closed rfl patched

/-- The row of a controller has counts that agree. -/
theorem counted_of_controllerRow {files : Files.Tree} {entry : Resource.Controller} {row : Node}
    (reads : (s.reading among files).loose.ControllerRow entry row) :
    ∃ pairs, countedPairs "ControllerModInfo" row = some pairs ∧
      ∀ pair ∈ pairs, Agrees s.statements pair := by
  obtain ⟨patches, revisions, patched, revised, rfl⟩ := reads
  refine ⟨_, rfl, fun pair inside => ?_⟩
  rcases List.mem_cons.mp inside with rfl | inside
  · exact agrees_of_revisionArray closed rfl revised
  · rw [List.mem_singleton.mp inside]
    exact agrees_of_patchArray closed rfl patched

/-- The numbers in a row agree with the arrays that it refers to. -/
theorem counted_of_element {files : Files.Tree} {struct : String} {row : Node}
    (element : (s.reading among files).loose.Element (.structType struct) row) :
    ∃ pairs, countedPairs struct row = some pairs ∧ ∀ pair ∈ pairs, Agrees s.statements pair := by
  cases element with
  | lookup reads =>
    obtain ⟨tree, names, rfl⟩ := reads
    refine ⟨_, rfl, fun pair inside => ?_⟩
    rw [List.mem_singleton.mp inside]
    have agrees := agrees_of_names closed rfl names
    rwa [List.length_map] at agrees
  | kext reads =>
    obtain ⟨paths, names, rfl⟩ := reads
    refine ⟨_, rfl, fun pair inside => ?_⟩
    rw [List.mem_singleton.mp inside]
    have agrees := agrees_of_names closed rfl names
    rwa [List.length_map] at agrees
  | patch reads => exact counted_of_patchRow closed reads
  | file reads => exact counted_of_fileRow closed reads
  | codec reads => exact counted_of_codecRow closed reads
  | group reads =>
    obtain ⟨rows, name, each, declared, rfl⟩ := reads
    refine ⟨_, rfl, fun pair inside => ?_⟩
    rw [List.mem_singleton.mp inside, each.length_eq]
    exact agrees_of_declared closed declared rfl rfl rfl
  | controller reads => exact counted_of_controllerRow closed reads

end References

/-! ### A whole source -/

/-- All bytes of a source: those of its bundles and controllers. -/
def bytesOf (files : Files.Tree) (tables : Directory.Tables) (groups : List VendorGroup) :
    List (List UInt8) :=
  bytesOfVisits .here (visitsOf files tables groups)

/-- The tables of a source are declared once each. -/
theorem count_declaredNames {s : State} (named : Named s)
    (plain : plainNames s.statements = tableTypes.flatMap fun table => [table.2, sizeName table.2])
    (name : String) : (Source.declaredNames s.statements).count name ≤ 1 := by
  by_cases given : NameSupply.isPlain name = true
  · have distinct : (plainNames s.statements).Nodup := by
      rw [plain]
      decide
    have once := List.nodup_iff_count_le_one.mp distinct name
    rwa [plainNames, List.count_filter (by simp [given])] at once
  · have once := List.nodup_iff_count_le_one.mp named.once name
    rwa [givenNames, List.count_filter (by simp [given])] at once

section Opened

variable {among : List UInt8 → Prop} {settings : Settings} {lines : List String}
  {used : List (List UInt8)} {state : State}
  (courses : Courses among (opened settings lines) used tableTypes state)

include courses

theorem named_of_courses : Named state :=
  (Named.start (declaredNames_opened settings lines) _ _).courses courses

/-- The plain names that the four sections declare are those of the tables. -/
theorem plainNames_of_courses : plainNames state.statements = tableNames := by
  have none : plainNames (opened settings lines).statements = [] := by
    rw [plainNames, declaredNames_opened, List.filter_nil]
  rw [courses.plainNames, none, List.nil_append, tableNames]

/-- After an opening and the four tables, each name is declared at most once. -/
theorem count_of_courses (name : String) :
    (Source.declaredNames state.statements).count name ≤ 1 :=
  count_declaredNames (named_of_courses courses) (plainNames_of_courses courses) name

end Opened

/-- The opening is typed, as it declares nothing. -/
theorem typed_opened (among : List UInt8 → Prop) (settings : Settings) (lines : List String) :
    Typed among (opened settings lines) := by
  intro statement member
  rcases List.mem_append.mp member with line | header
  · obtain ⟨text, _, rfl⟩ := List.mem_map.mp line
    exact nofun
  · rw [List.mem_singleton.mp header]
    exact nofun

/-- In a source that is built, the number beside each reference to an array is that of the elements
of the array, and the sizes of the tables are those of their rows. -/
theorem build_counted {generator : Generator} {groups : List VendorGroup} {w w' : Workspace}
    {source : List Node} (built : outcome (generator.build (some groups)) w = (.ok source, w'))
    (apart : ∀ data ∈ bytesOf w.files generator.tables groups,
      ∀ data' ∈ bytesOf w.files generator.tables groups,
        hexDigest data = hexDigest data' → data = data') : Counted source := by
  obtain ⟨lines, results, state, run, rfl⟩ := takes_of_build built
  have courses : Courses (· ∈ bytesOf w.files generator.tables groups)
      (opened generator.settings lines) _ tableTypes state :=
    courses_visits NameSupply.isPlain_kextTable (fun data member => member) run
  have named : Named state := (Named.start (declaredNames_opened _ _) _ _).courses courses
  have typed : Typed _ state := (typed_opened _ _ _).courses courses
  obtain ⟨held, holds, covers⟩ := (Holds.start (byteArrays_opened _ _) _ _).courses courses
  have none : plainNames (opened generator.settings lines).statements = [] := by
    rw [plainNames, declaredNames_opened, List.filter_nil]
  have once : ∀ name, (Source.declaredNames state.statements).count name ≤ 1 := by
    refine count_declaredNames named ?_
    rw [courses.plainNames, none, List.nil_append]
  have closed : Closed (· ∈ bytesOf w.files generator.tables groups) state held :=
    { once := once, holds := holds, known := covers.stored, apart := fun member member' =>
        apart _ member _ member' }
  constructor
  · intro struct rows declared isStatic isConstant member row inside
    obtain ⟨files, element⟩ :=
      typed _ member struct rows declared isStatic isConstant rfl row inside
    exact counted_of_element closed element
  · intro table member
    obtain ⟨rows, declared, sized⟩ := courses.declared table member
    exact ⟨rows, Source.declarations_eq_singleton declared rfl (once _),
      Source.declarations_eq_singleton sized rfl (once _)⟩

/-- A generator with one kext and no more. -/
def oneKext : Generator where
  directory := .here
  settings := {}
  tables :=
    ⟨[], .ofDictionary [(.string "AppleHDA", ⟨"com.apple.driver.AppleHDA", [], false, false⟩)], []⟩

/-- A bundle with a file and a patch that changes nothing, with one byte everywhere. -/
def oneBundle : List VendorGroup :=
  [⟨.realtek, [⟨⟨.realtek, "ALC269", 617, ⟨[⟨1, "layout1.xml", 0, 0⟩], []⟩,
    [.idle "AppleHDA"], []⟩, .here⟩]⟩]

/-- The directory of the bundle. -/
def oneFile : Workspace :=
  ⟨⟨[(⟨.above 0, ["layout1.xml"]⟩, .file [0])]⟩, ⟨2018, 9, 1, 12, 0, 0, 0⟩, []⟩

theorem exists_build_oneBundle : ∃ source w',
    outcome (oneKext.build (some oneBundle)) oneFile = (.ok source, w') := by
  apply exists_of_toBool
  decide +kernel

theorem build_counted_oneBundle : ∃ source w',
    outcome (oneKext.build (some oneBundle)) oneFile = (.ok source, w') ∧ Counted source := by
  have used : bytesOf oneFile.files oneKext.tables oneBundle = [[0], [0], [0]] := by
    decide +kernel
  rcases built : outcome (oneKext.build (some oneBundle)) oneFile with ⟨failure | source, w'⟩
  · have succeeds : (outcome (oneKext.build (some oneBundle)) oneFile).1.toBool = true := by
      decide +kernel
    rw [built] at succeeds
    cases succeeds
  · refine ⟨source, w', rfl, build_counted built ?_⟩
    rw [used]
    simp

end CodecTables.Generate
