import CodecTables.Proofs.Compile.Frame
import CodecTables.Proofs.Compile.Names
import CodecTables.Proofs.Compile.Rows
import CodecTables.Proofs.Compile.Rules
import CodecTables.Proofs.Source.Form

/-!
# The course of compiling

All that compiling does to a state is one of a few changes: it adds a heading, stores bytes,
declares an array under a given name, or declares a table under a name of its own (`Course`). The
elements of arrays and tables are rows that say what some entity is. What the changes preserve is
preserved by every run of every entity, by the course that the run takes (`course_entity`).
-/

namespace CodecTables.Compile

open Files (Path Tree)
open Resource
open Source (Node)

variable {α β : Type}

/-- The expressions that are elements of arrays, by their type: texts, revision codes and rows. -/
inductive Reading.Element (r : Reading) : Node → Node → Prop
  | text (content : String) : r.Element Source.stringType (.string content)
  | revision (code : Int) : r.Element Source.uint32 (Source.hexOf code 32)
  | lookup {entry : LookupEntry} {row : Node} :
      r.LookupRow entry row → r.Element (.structType "CodecLookupInfo") row
  | kext {info : KextInfo} {row : Node} :
      r.KextRow info row → r.Element (.structType "KernelPatcher::KextInfo") row
  | patch {p : Patch} {row : Node} :
      r.PatchRow p row → r.Element (.structType "KextPatch") row
  | file {directory : Path} {file : CodecFile} {row : Node} :
      r.FileRow directory file row → r.Element (.structType "CodecModInfo::File") row
  | codec {directory : Path} {info : CodecInfo} {row : Node} :
      r.CodecRow directory info row → r.Element (.structType "CodecModInfo") row
  | group {group : VendorGroup} {row : Node} :
      r.GroupRow group row → r.Element (.structType "VendorModInfo") row
  | controller {entry : Controller} {row : Node} :
      r.ControllerRow entry row → r.Element (.structType "ControllerModInfo") row

theorem Reading.Element.mono {r r' : Reading} (within : r.Within r') {type value : Node}
    (element : r.Element type value) : r'.Element type value := by
  cases element with
  | text content => exact .text content
  | revision code => exact .revision code
  | lookup row => exact .lookup (row.mono within)
  | kext row => exact .kext (row.mono within)
  | patch row => exact .patch (row.mono within)
  | file row => exact .file (row.mono within)
  | codec row => exact .codec (row.mono within)
  | group row => exact .group (row.mono within)
  | controller row => exact .controller (row.mono within)

/-- The expressions of a list are elements of a struct type if each says what some entity is. -/
theorem Reading.elements_of_forall₂ {r : Reading} {type : Node} {row : α → Node → Prop}
    {as : List α} {rows : List Node} (each : List.Forall₂ row as rows)
    (element : ∀ a node, row a node → r.Element type node) :
    ∀ node ∈ rows, r.Element type node := by
  intro node member
  induction each with
  | nil => exact absurd member List.not_mem_nil
  | cons first rest ih =>
    rcases List.mem_cons.mp member with rfl | later
    · exact element _ _ first
    · exact ih later

/-- The titles of the sections of a source. -/
def titles : List String :=
  ["Codec Lookup Section", "Kexts Section", "Vendor Section", "Controllers Section"] ++
    Vendor.all.map fun vendor => "Codec Section [" ++ vendor.label ++ "]"

theorem vendorTitle_mem (vendor : Vendor) :
    "Codec Section [" ++ vendor.label ++ "]" ∈ titles := by
  have listed : vendor ∈ Vendor.all := by cases vendor <;> decide
  exact List.mem_append_right _ (List.mem_map.mpr ⟨vendor, listed, rfl⟩)

/-- What a run does to a state, with the bytes that it stores, in order, and the struct types and
names of the tables that it declares. The rows of arrays and tables say what some entity is when
they are declared. -/
inductive Course (among : List UInt8 → Prop) (files : Tree) :
    State → List (List UInt8) → List (String × String) → State → Prop
  | still {s t : State} : t.statements = s.statements → t.names = s.names →
      t.buffers = s.buffers → t.kexts = s.kexts → t.kextTable = s.kextTable →
      Course among files s [] [] t
  | trans {s t u : State} {used used' : List (List UInt8)}
      {tables tables' : List (String × String)} :
      Course among files s used tables t → Course among files t used' tables' u →
      Course among files s (used ++ used') (tables ++ tables') u
  | heading (s : State) {title : String} : title ∈ titles →
      Course among files s [] [] (s.headed title)
  | store {s t : State} {data : List UInt8} {stem name : String} : stem ∈ byteStems →
      among data → Takes (buffer data stem) s name t → Course among files s [data] [] t
  | array {s : State} {stem : String} {type : Node} {elements : List Node} (isConstant : Bool) :
      stem ∈ otherStems → (Source.elementForm? type).isSome →
      (∀ node ∈ elements, (s.reading among files).Element type node) →
      Course among files s [] []
        ((s.mint stem).add (.declareArray type (s.nextName stem) isConstant elements))
  | table {s : State} {struct name : String} {rows : List Node} :
      NameSupply.isPlain name = true → (Source.elementForm? (.structType struct)).isSome →
      (∀ row ∈ rows, (s.reading among files).Element (.structType struct) row) →
      Course among files s [] [(struct, name)]
        ((s.add (.declare (Source.structArray struct) name (.literal rows))).add
          (.declareConst .sizeType (sizeName name) (.integer rows.length)))

variable {among : List UInt8 → Prop} {files : Tree}

namespace Course

variable {s t u : State} {used used' : List (List UInt8)} {tables : List (String × String)}

theorem refl (s : State) : Course among files s [] [] s := .still rfl rfl rfl rfl rfl

/-- An array of rows. -/
theorem rows {struct stem : String} {elements : List Node} (isConstant : Bool)
    (known : stem ∈ otherStems) (formed : (Source.elementForm? (.structType struct)).isSome)
    (each : ∀ row ∈ elements, (s.reading among files).Element (.structType struct) row) :
    Course among files s [] [] ((s.mint stem).add
      (.declareArray (.structType struct) (s.nextName stem) isConstant elements)) :=
  .array isConstant known formed each

/-- A run on top of another, where neither declares a table. -/
theorem append (first : Course among files s used [] t) (second : Course among files t used' [] u) :
    Course among files s (used ++ used') [] u :=
  first.trans second

/-- A run that stores no bytes on top of another. -/
theorem after (first : Course among files s used [] t) (second : Course among files t [] [] u) :
    Course among files s used [] u := by
  have both := first.append second
  rwa [List.append_nil] at both

theorem use (course : Course among files s used tables t) (name : String) :
    Course among files s used tables (t.use name) := by
  have both := course.trans (.still rfl rfl rfl rfl rfl : Course among files t [] [] (t.use name))
  rwa [List.append_nil, List.append_nil] at both

/-- The source, the known arrays and the counters only grow. -/
theorem grows (course : Course among files s used tables t) : Extends s t := by
  induction course with
  | still statements names buffers _ kextTable =>
    refine ⟨⟨[], ?_⟩, ?_, ?_, kextTable⟩
    · exact (List.append_nil _).trans statements.symm
    · intro digest name known
      rw [buffers]
      exact known
    · intro stem
      exact Nat.le_of_eq (congrArg (·.index stem) names.symm)
  | trans _ _ first second => exact first.trans second
  | heading s => exact .add s _
  | store _ _ run => exact (extends_buffer _ _).of_takes run
  | array => exact (Extends.mint _ _).trans (.add _ _)
  | table => exact (Extends.add _ _).trans (.add _ _)

/-- A run that follows such a course leaves the kexts as they are. -/
theorem kexts (course : Course among files s used tables t) : t.kexts = s.kexts := by
  induction course with
  | still _ _ _ kexts _ => exact kexts
  | trans _ _ first second => exact second.trans first
  | store _ _ run => exact (kexts_buffer _ _).of_takes run
  | heading | array | table => rfl

/-- All that can be read before a run can be read after it. -/
theorem within (course : Course among files s used tables t) :
    (s.reading among files).Within (t.reading among files) where
  source := course.grows.mem
  refers := fun ⟨member, name, known, same⟩ => ⟨member, name, course.grows.buffers known, same⟩
  place := by
    intro executable place found
    simpa only [State.reading, course.kexts] using found
  kextTable := course.grows.kextTable
  files := rfl

/-- The tables of a run are declared, each with the number of its rows. -/
theorem declared (course : Course among files s used tables t) :
    ∀ table ∈ tables, ∃ rows,
      .declare (Source.structArray table.1) table.2 (.literal rows) ∈ t.statements ∧
      .declareConst .sizeType (sizeName table.2) (.integer rows.length) ∈ t.statements := by
  induction course with
  | still | heading | store | array => exact nofun
  | trans _ second ih ih' =>
    intro table member
    rcases List.mem_append.mp member with early | late
    · obtain ⟨rows, declared, sized⟩ := ih table early
      exact ⟨rows, second.grows.mem declared, second.grows.mem sized⟩
    · exact ih' table late
  | @table s struct name rows =>
    intro other member
    rw [List.mem_singleton.mp member]
    refine ⟨rows, ?_, ?_⟩
    · exact List.mem_append_left _ (List.mem_append_right _ (List.mem_singleton_self _))
    · exact List.mem_append_right _ (List.mem_singleton_self _)

end Course

/-! ### Rules -/

/-- The runs of a step from states that satisfy `I` store the given bytes, declare no table and give
an expression that is read as stated. -/
def Yields (among : List UInt8 → Prop) (files : Tree) (I : State → Prop)
    (used : List (List UInt8)) (step : Step α) (reads : Reading → α → Prop) : Prop :=
  ∀ ⦃s a t⦄, I s → (∀ data ∈ used, among data) → Takes step s a t →
    Course among files s used [] t ∧ reads (t.reading among files) a

/-- A step for each element of a list stores the bytes of each, in order. -/
theorem yields_mapM {I : State → Prop} {used : α → List (List UInt8)} {step : α → Step β}
    {reads : α → Reading → β → Prop} (stays : ∀ a, Keeps (fun s t => I s → I t) (step a))
    (mono : ∀ a b {r r' : Reading}, r.Within r' → reads a r b → reads a r' b)
    (each : ∀ a, Yields among files I (used a) (step a) (reads a)) (as : List α) :
    Yields among files I (as.flatMap used) (as.mapM step) fun r bs =>
      List.Forall₂ (fun a b => reads a r b) as bs := by
  intro s bs t inside members run
  have steps := takes_mapM.mp run
  clear run
  induction steps with
  | nil s => exact ⟨.refl s, .nil⟩
  | cons first _ ih =>
    rw [List.flatMap_cons] at members ⊢
    obtain ⟨course, read⟩ :=
      each _ inside (fun data member => members data (List.mem_append_left _ member)) first
    obtain ⟨courses, reads⟩ :=
      ih ((stays _).of_takes first inside)
        fun data member => members data (List.mem_append_right _ member)
    exact ⟨course.append courses, .cons (mono _ _ courses.within read) reads⟩

/-- No bytes are stored in the course of steps that store none each. -/
theorem yields_mapM_nil {step : α → Step β} {reads : α → Reading → β → Prop}
    (mono : ∀ a b {r r' : Reading}, r.Within r' → reads a r b → reads a r' b)
    (each : ∀ a, Yields among files (fun _ => True) [] (step a) (reads a)) (as : List α) :
    Yields among files (fun _ => True) [] (as.mapM step) fun r bs =>
      List.Forall₂ (fun a b => reads a r b) as bs := by
  have all := yields_mapM (fun _ _ _ => trivial) mono each as
  rwa [List.flatMap_eq_nil_iff.mpr fun _ _ => rfl] at all

/-- The array that was declared last. -/
theorem names_array (s : State) (stem : String) (type : Node) (elements : List Node) :
    (((s.mint stem).add (.declareArray type (s.nextName stem) true elements)).reading among
      files).Names type elements (.identifier (s.nextName stem)) :=
  ⟨_, rfl, List.mem_append_right _ (List.mem_singleton_self _)⟩

/-- An array of texts is declared under the name that is given for it. -/
theorem yields_stringArray {stem : String} (known : stem ∈ otherStems)
    (strings : List String) :
    Yields among files (fun _ => True) [] (stringArray stem strings) fun r name =>
      r.Names Source.stringType (strings.map .string) (.identifier name) := by
  intro s name t _ _ run
  obtain ⟨rfl, rfl⟩ := takes_stringArray.mp run
  refine ⟨.array true known rfl ?_, names_array _ _ _ _⟩
  intro node member
  obtain ⟨text, _, rfl⟩ := List.mem_map.mp member
  exact .text text

/-- An entry of the lookup table gives a row that says what it is. -/
theorem yields_lookupEntry (entry : LookupEntry) :
    Yields among files (fun _ => True) [] (lookupEntry entry) fun r => r.LookupRow entry := by
  intro s row t inside members run
  obtain ⟨tree, stored, rfl⟩ := takes_lookupEntry.mp run
  obtain ⟨course, names⟩ := yields_stringArray (by decide) _ inside members stored
  exact ⟨course, _, names, rfl⟩

theorem yields_kextInfo (info : KextInfo) :
    Yields among files (fun _ => True) [] (kextInfo info) fun r => r.KextRow info := by
  intro s row t inside members run
  obtain ⟨paths, stored, rfl⟩ := takes_kextInfo.mp run
  obtain ⟨course, names⟩ := yields_stringArray (by decide) _ inside members stored
  exact ⟨course, _, names, rfl⟩

/-- Bytes are referred to by the name that is given for them. -/
theorem yields_buffer {stem : String} (known : stem ∈ byteStems) (data : List UInt8) :
    Yields among files (fun _ => True) [data] (buffer data stem) fun r name =>
      r.refers data (.identifier name) := by
  intro s name t _ members run
  have member := members data (List.mem_singleton_self data)
  refine ⟨.store known member run, member, name, ?_, rfl⟩
  rcases takes_buffer.mp run with ⟨held, rfl⟩ | ⟨unknown, rfl, rfl⟩
  · exact held
  · simp [State.store, State.hold, State.add, State.mint, List.lookup_append, unknown]

theorem yields_patch (p : Patch) :
    Yields among files (fun _ => True) p.bytes (patch buffer p) fun r => r.PatchRow p := by
  intro s row t inside members run
  have member : among p.find := members p.find List.mem_cons_self
  have member' : among p.replace := members p.replace (List.mem_cons_of_mem _ List.mem_cons_self)
  obtain ⟨find, u, replace, place, stored, stored', known, rfl⟩ := takes_patch.mp run
  obtain ⟨course, refers⟩ := yields_buffer (by decide) p.find inside (by simpa using member) stored
  obtain ⟨course', refers'⟩ :=
    yields_buffer (by decide) p.replace inside (by simpa using member') stored'
  exact ⟨course.append course', place, _, _, known, course'.within.refers refers, refers', rfl⟩

/-- The elements of an array that was declared last are read in the state before it. -/
theorem yields_patches (list : List Patch) :
    Yields among files (fun _ => True) (list.flatMap Patch.bytes) (patches buffer list)
      fun r => r.PatchArray list := by
  intro s node t inside members run
  obtain ⟨rows, u, steps, rfl, rfl⟩ := takes_patches.mp run
  obtain ⟨course, each⟩ := yields_mapM (fun _ _ _ => trivial)
    (fun _ _ _ _ within row => row.mono within) yields_patch list inside members steps
  have declared : Course among files u [] [] ((u.mint "patches").add _) :=
    .rows true (by decide) rfl (Reading.elements_of_forall₂ each fun _ _ => .patch)
  refine ⟨(course.after declared).use _, rows, ?_, ?_⟩
  · exact each.imp fun _ _ row => row.mono declared.within
  · exact names_array u "patches" _ rows

/-- Revisions give the name of their array, or none. -/
theorem yields_revisions (codes : List Int) :
    Yields among files (fun _ => True) [] (revisions codes) fun r => r.RevisionArray codes := by
  intro s node t _ _ run
  rcases takes_revisions.mp run with ⟨empty, rfl, rfl⟩ | ⟨present, rfl, rfl⟩
  · exact ⟨.refl _, .inl ⟨empty, rfl⟩⟩
  · refine ⟨.array true (by decide) rfl ?_, .inr ⟨present, ?_⟩⟩
    · intro node member
      obtain ⟨code, _, rfl⟩ := List.mem_map.mp member
      exact .revision code
    · exact names_array _ _ _ _

/-! ### Codecs -/

/-- The directory at hand. -/
def At (directory : Path) (s : State) : Prop := s.directory = directory

theorem at_of_keeps {directory : Path} {step : Step α}
    (keeps : Keeps (fun s t => t.directory = s.directory) step) :
    Keeps (fun s t => At directory s → At directory t) step :=
  fun s inside => (keeps s).trans inside

/-- A file gives a row that says what it is, with the content that it has in its directory. -/
theorem yields_codecFile (directory : Path) (file : CodecFile) :
    Yields among files (At directory) (file.bytes files directory) (codecFile buffer files file)
      fun r => r.FileRow directory file := by
  intro s row t inside members run
  have here : s.directory = directory := inside
  unfold CodecFile.bytes at members ⊢
  rw [← here] at members ⊢
  cases found : files.read (s.directory.join (.ofString file.path)) with
  | ok bytes =>
    obtain ⟨name, stored, rfl⟩ := (takes_codecFile_of_ok found).mp run
    rw [found] at members
    obtain ⟨course, refers⟩ := yields_buffer (by decide) bytes trivial members stored
    have content : (t.reading among files).Content
        (files.read (s.directory.join (.ofString file.path))) (.identifier name) bytes.length := by
      rw [found]
      exact .present refers
    exact ⟨course, _, _, content, rfl⟩
  | error problem =>
    obtain ⟨_, same, rfl⟩ := (takes_codecFile_of_error found).mp run
    have content : (t.reading among files).Content
        (files.read (s.directory.join (.ofString file.path))) .nullPointer 0 := by
      rw [found]
      exact .absent problem
    refine ⟨?_, _, 0, content, rfl⟩
    rw [same]
    exact .still rfl rfl rfl rfl rfl

/-- The arrays of files are declared after both kinds of files were read. -/
theorem yields_codecFiles (directory : Path) (codec : CodecFiles) :
    Yields among files (At directory) (codec.bytes files directory)
      (codecFiles buffer files codec) fun r arrays =>
        r.FileArray directory codec.layouts arrays.1 ∧
          r.FileArray directory codec.platforms arrays.2 := by
  intro s arrays t inside members run
  obtain ⟨layoutRows, u, platformRows, v, laid, platformed, rfl, rfl⟩ := takes_codecFiles.mp run
  have stays : ∀ file, Keeps (fun s t => At directory s → At directory t)
      (codecFile buffer files file) := fun file =>
    at_of_keeps (frame_directory.codecFile directory_buffer files file)
  have mono : ∀ file row {r r' : Reading}, r.Within r' → r.FileRow directory file row →
      r'.FileRow directory file row := fun _ _ _ _ within row => row.mono within
  have here : At directory u :=
    (at_of_keeps (frame_directory.mapM codec.layouts fun file _ =>
      frame_directory.codecFile directory_buffer files file)).of_takes laid inside
  obtain ⟨course, layouts⟩ := yields_mapM stays mono (yields_codecFile directory) codec.layouts
    (show At directory (s.use _) from inside)
    (fun data member => members data (List.mem_append_left _ member)) laid
  obtain ⟨course', platforms⟩ := yields_mapM stays mono (yields_codecFile directory)
    codec.platforms here (fun data member => members data (List.mem_append_right _ member))
    platformed
  -- The layouts are declared after the platforms were read, so what their rows say has to last.
  have kept := layouts.imp fun file row => mono file row course'.within
  have one : Course among files v [] [] ((v.mint "layouts").add _) :=
    .rows true (by decide) rfl (Reading.elements_of_forall₂ kept fun _ _ => .file)
  have raised := platforms.imp fun file row => mono file row one.within
  have two : Course among files ((v.mint "layouts").add _) [] []
      ((((v.mint "layouts").add _).mint "platforms").add _) :=
    .rows true (by decide) rfl (Reading.elements_of_forall₂ raised fun _ _ => .file)
  have both := one.append two
  have opened : Course among files s [] [] (s.use "CodecModInfo::File") :=
    .still rfl rfl rfl rfl rfl
  refine ⟨((opened.append course).append course').after both, ⟨layoutRows, ?_, ?_⟩,
    platformRows, ?_, ?_⟩
  · exact kept.imp fun file row => mono file row both.within
  · exact (names_array v "layouts" _ layoutRows).mono two.within
  · exact raised.imp fun file row => mono file row two.within
  · exact names_array ((v.mint "layouts").add _) "platforms" _ platformRows

theorem yields_codecInfo (directory : Path) (info : CodecInfo) :
    Yields among files (At directory) (info.bytes files directory) (codecInfo buffer files info)
      fun r => r.CodecRow directory info := by
  intro s row t inside members run
  obtain ⟨layouts, platforms, u, patches, v, revisions, filed, patched, revised, rfl⟩ :=
    takes_codecInfo.mp run
  obtain ⟨course, laid, platformed⟩ := yields_codecFiles directory info.files inside
    (fun data member => members data (List.mem_append_left _ member)) filed
  obtain ⟨course', patched⟩ : Course among files u _ [] v ∧ _ :=
    yields_patches info.patches trivial
      (fun data member => members data (List.mem_append_right _ member)) patched
  obtain ⟨course'', revised⟩ : Course among files v [] [] t ∧ _ :=
    yields_revisions info.revisions trivial (by simp) revised
  have later := course'.after course''
  exact ⟨course.append later, layouts, platforms, patches, revisions, laid.mono later.within,
    platformed.mono later.within, patched.mono course''.within, revised, rfl⟩

/-- A bundle gives a row that says what its codec is, with the files in its directory. -/
theorem yields_codecBundle (bundle : CodecBundle) :
    Yields among files (fun _ => True) (bundle.bytes files) (codecBundle buffer files bundle)
      fun r => r.CodecRow bundle.path bundle.info := by
  intro s row t _ members run
  have entered : Course among files s [] [] { s with directory := bundle.path } :=
    .still rfl rfl rfl rfl rfl
  obtain ⟨course, reads⟩ := yields_codecInfo bundle.path bundle.info
    (show At bundle.path { s with directory := bundle.path } from rfl) members
    (takes_codecBundle.mp run)
  exact ⟨entered.append course, reads⟩

/-- The array of the codecs of a vendor can be changed by others, so it is no constant. -/
theorem yields_vendorGroup (group : VendorGroup) :
    Yields among files (fun _ => True) (group.bytes files) (vendorGroup buffer files group)
      fun r => r.GroupRow group := by
  intro s row t inside members run
  obtain ⟨rows, u, steps, rfl, rfl⟩ := takes_vendorGroup.mp run
  obtain ⟨course, each⟩ := yields_mapM (fun _ _ _ => trivial)
    (fun _ _ _ _ within row => row.mono within) yields_codecBundle group.bundles inside members
    steps
  have declared : Course among files u [] [] ((u.mint "codecMod").add _) :=
    .rows false (by decide) rfl (Reading.elements_of_forall₂ each fun _ _ => .codec)
  have begun := (Course.heading s (vendorTitle_mem group.vendor)).append course
  refine ⟨(begun.after declared).use _, rows, _, ?_, ?_, rfl⟩
  · exact each.imp fun _ _ row => row.mono declared.within
  · exact List.mem_append_right _ (List.mem_singleton_self _)

theorem yields_controller (entry : Controller) :
    Yields among files (fun _ => True) entry.bytes (controller buffer entry)
      fun r => r.ControllerRow entry := by
  intro s row t inside members run
  obtain ⟨patches, u, revisions, patched, revised, rfl⟩ := takes_controller.mp run
  obtain ⟨course, patched⟩ : Course among files s _ [] u ∧ _ :=
    yields_patches entry.patches inside members patched
  obtain ⟨course', revised⟩ : Course among files u [] [] t ∧ _ :=
    yields_revisions entry.revisions trivial (by simp) revised
  exact ⟨course.after course', patches, revisions, patched.mono course'.within, revised, rfl⟩

/-! ### Tables -/

/-- A table whose rows say what its entries are is declared with the number of its rows. -/
theorem course_declareTable {struct name : String} {rows : List Node} {entries : List α}
    {s t : State} {u : Unit} (row : Reading → α → Node → Prop)
    (plain : NameSupply.isPlain name = true)
    (formed : (Source.elementForm? (.structType struct)).isSome)
    (mono : ∀ a node {r r' : Reading}, r.Within r' → row r a node → row r' a node)
    (element : ∀ {r : Reading} a node, row r a node → r.Element (.structType struct) node)
    (each : List.Forall₂ (row (s.reading among files)) entries rows)
    (run : Takes (declareTable struct name rows) s u t) :
    Course among files s [] [(struct, name)] t ∧
      (t.reading among files).Table struct name (row (t.reading among files)) entries := by
  have same := takes_declareTable.mp run
  have declared : Course among files s [] [(struct, name)]
      ((s.add _).add (.declareConst .sizeType (sizeName name) (.integer rows.length))) :=
    .table plain formed (Reading.elements_of_forall₂ each element)
  have used : Course among files s [] [(struct, name)] t := by
    rw [same]
    exact declared.trans (.still rfl rfl rfl rfl rfl)
  refine ⟨used, rows, each.imp fun a node => mono a node used.within, ?_, ?_⟩
  all_goals rw [same]
  · exact List.mem_append_left _ (List.mem_append_right _ (List.mem_singleton_self _))
  · exact List.mem_append_right _ (List.mem_singleton_self _)

/-- The struct types and names of the tables that an entity declares. -/
def tablesOf (kextTable : String) : Entity → List (String × String)
  | .lookupTable _ => [("CodecLookupInfo", lookupTableName)]
  | .kextTable _ => [("KernelPatcher::KextInfo", kextTable)]
  | .vendorGroups _ => [("VendorModInfo", vendorTableName)]
  | .controllerTable _ => [("ControllerModInfo", controllerTableName)]
  | _ => []

/-- The places of kexts after an entity. -/
def placesAfter (places : List (Plist.Scalar × Nat)) : Entity → List (Plist.Scalar × Nat)
  | .kextTable table => notePlaces [] 0 table.entries
  | _ => places

/-- The course of a table: a heading, the rows and the declarations. -/
theorem course_table {struct name title : String} {as : List α} {used : α → List (List UInt8)}
    {step : α → Step Node} {row : α → Reading → Node → Prop} {s t : State} {u : Unit}
    (plain : NameSupply.isPlain name = true)
    (formed : (Source.elementForm? (.structType struct)).isSome) (listed : title ∈ titles)
    (mono : ∀ a node {r r' : Reading}, r.Within r' → row a r node → row a r' node)
    (element : ∀ {r : Reading} a node, row a r node → r.Element (.structType struct) node)
    (each : ∀ a, Yields among files (fun _ => True) (used a) (step a) (row a))
    (members : ∀ data ∈ as.flatMap used, among data)
    (run : Takes (do
      openSection title
      let rows ← as.mapM step
      declareTable struct name rows) s u t) :
    Course among files s (as.flatMap used) [(struct, name)] t ∧
      (t.reading among files).Table struct name (fun a => row a (t.reading among files)) as := by
  obtain ⟨rows, v, steps, declared⟩ := takes_table.mp run
  obtain ⟨course, reads⟩ := yields_mapM (fun _ _ _ => trivial) mono each as trivial members steps
  obtain ⟨course', table⟩ := course_declareTable (fun r a => row a r) plain formed mono element
    reads declared
  have all := ((Course.heading s listed).append course).trans course'
  rw [List.append_nil] at all
  exact ⟨all, table⟩

/-- The rows of a kext table are compiled with its own kexts, and declared last. -/
theorem rows_kextTable {table : KextTable} {s t : State} {u : Unit}
    (run : Takes (kextTable table) s u t) :
    ∃ v rows, Course among files (s.register (notePlaces [] 0 table.entries)) [] [] v ∧
      List.Forall₂ (fun entry => (v.reading among files).KextRow entry.2) table.entries rows ∧
      Takes (declareTable "KernelPatcher::KextInfo" s.kextTable rows) v () t := by
  obtain ⟨rows, v, steps, declared⟩ := takes_kextTable.mp run
  have heading : Course among files (s.register (notePlaces [] 0 table.entries)) [] []
      ((s.headed "Kexts Section").register (notePlaces [] 0 table.entries)) :=
    .heading (s.register (notePlaces [] 0 table.entries)) (by decide)
  have each : ∀ entry : Plist.Scalar × KextInfo,
      Yields among files (fun _ => True) [] (kextInfo entry.2) fun r => r.KextRow entry.2 :=
    fun entry => yields_kextInfo entry.2
  have mono : ∀ (entry : Plist.Scalar × KextInfo) row {r r' : Reading}, r.Within r' →
      r.KextRow entry.2 row → r'.KextRow entry.2 row := fun _ _ _ _ within row => row.mono within
  obtain ⟨course, reads⟩ := yields_mapM_nil mono each table.entries trivial (by simp) steps
  have begun := heading.append course
  have name : v.kextTable = s.kextTable := begun.grows.kextTable
  rw [name] at declared
  exact ⟨v, rows, begun, reads, declared⟩

theorem course_kextTable {table : KextTable} {s t : State} {u : Unit}
    (plain : NameSupply.isPlain s.kextTable = true) (run : Takes (kextTable table) s u t) :
    Course among files (s.register (notePlaces [] 0 table.entries)) []
        [("KernelPatcher::KextInfo", s.kextTable)] t ∧
      (t.reading among files).Table "KernelPatcher::KextInfo" s.kextTable
        (fun entry => (t.reading among files).KextRow entry.2) table.entries := by
  obtain ⟨v, rows, begun, reads, declared⟩ := rows_kextTable run
  obtain ⟨course, table⟩ :=
    course_declareTable (fun r (entry : Plist.Scalar × KextInfo) => r.KextRow entry.2) plain rfl
      (fun _ _ _ _ within row => row.mono within) (fun _ _ => .kext) reads declared
  exact ⟨begun.trans course, table⟩

/-- The table of vendors is declared after all that its rows refer to. -/
theorem course_vendorTable {groups : List VendorGroup} {s t : State} {u : Unit}
    (members : ∀ data ∈ groups.flatMap (·.bytes files), among data)
    (run : Takes (vendorTable buffer files groups) s u t) :
    Course among files s (groups.flatMap (·.bytes files)) [("VendorModInfo", vendorTableName)]
        t ∧
      (t.reading among files).Table "VendorModInfo" vendorTableName
        (t.reading among files).GroupRow groups := by
  obtain ⟨rows, v, steps, declared⟩ := takes_vendorTable.mp run
  obtain ⟨course, reads⟩ := yields_mapM (fun _ _ _ => trivial)
    (fun _ _ _ _ within row => row.mono within) yields_vendorGroup groups trivial members steps
  have heading : Course among files v [] [] (v.headed "Vendor Section") :=
    .heading v (by decide)
  have begun := course.after heading
  obtain ⟨course', table⟩ := course_declareTable Reading.GroupRow
    NameSupply.isPlain_vendorTableName rfl (fun _ _ _ _ within row => row.mono within)
    (fun _ _ => .group) (reads.imp fun _ _ row => row.mono heading.within) declared
  have all := begun.trans course'
  rw [List.append_nil] at all
  exact ⟨all, table⟩

/-! ### All entities -/

/-- The course of a step whose expression is all that an entity is given as. -/
theorem course_singleton {I : State → Prop} {used : List (List UInt8)} {step : Step Node}
    {reads : Reading → Node → Prop} {s t : State} {nodes : List Node}
    (yields : Yields among files I used step reads) (inside : I s)
    (members : ∀ data ∈ used, among data) (run : Takes (do return [← step]) s nodes t) :
    Course among files s used [] t ∧
      ∃ node, nodes = [node] ∧ reads (t.reading among files) node := by
  obtain ⟨node, taken, rfl⟩ := takes_singleton.mp run
  obtain ⟨course, read⟩ := yields inside members taken
  exact ⟨course, node, rfl, read⟩

/-- The lookup table is declared after all that its rows refer to. -/
theorem course_lookupTable {entries : List LookupEntry} {s t : State} {u : Unit}
    (run : Takes (lookupTable entries) s u t) :
    Course among files s [] [("CodecLookupInfo", lookupTableName)] t ∧
      (t.reading among files).Table "CodecLookupInfo" lookupTableName
        (t.reading among files).LookupRow entries := by
  obtain ⟨course, table⟩ : Course among files s _ _ t ∧ _ :=
    course_table NameSupply.isPlain_lookupTableName rfl (by decide)
      (fun _ _ _ _ within row => row.mono within) (fun _ _ => .lookup) yields_lookupEntry (by simp)
      run
  rw [List.flatMap_eq_nil_iff.mpr fun _ _ => rfl] at course
  exact ⟨course, table⟩

/-- The table of controllers is declared after all that its rows refer to. -/
theorem course_controllerTable {entries : List Controller} {s t : State} {u : Unit}
    (members : ∀ data ∈ entries.flatMap Controller.bytes, among data)
    (run : Takes (controllerTable buffer entries) s u t) :
    Course among files s (entries.flatMap Controller.bytes)
        [("ControllerModInfo", controllerTableName)] t ∧
      (t.reading among files).Table "ControllerModInfo" controllerTableName
        (t.reading among files).ControllerRow entries :=
  course_table NameSupply.isPlain_controllerTableName rfl (by decide)
    (fun _ _ _ _ within row => row.mono within) (fun _ _ => .controller) yields_controller
    members run

/-- The run of an entity stores its bytes, declares its tables, and gives expressions that say what
the entity is. -/
theorem course_entity {e : Entity} {s t : State} {nodes : List Node}
    (plain : NameSupply.isPlain s.kextTable = true)
    (members : ∀ data ∈ e.bytes files s.directory, among data)
    (run : Takes (entity files e) s nodes t) :
    Course among files (s.register (placesAfter s.kexts e)) (e.bytes files s.directory)
      (tablesOf s.kextTable e) t ∧ (t.reading among files).Means s.directory e nodes := by
  cases e with
  | lookupTable entries =>
    obtain ⟨declared, rfl⟩ := takes_nothing.mp run
    obtain ⟨course, table⟩ := course_lookupTable declared
    exact ⟨course, rfl, table⟩
  | kextTable table =>
    obtain ⟨declared, rfl⟩ := takes_nothing.mp run
    obtain ⟨course, rows⟩ : Course among files _ _ _ t ∧ _ := course_kextTable plain declared
    refine ⟨course, rfl, ?_⟩
    rw [show (t.reading among files).kextTable = s.kextTable from course.grows.kextTable]
    exact rows
  | vendorGroups groups =>
    obtain ⟨declared, rfl⟩ := takes_nothing.mp run
    obtain ⟨course, table⟩ := course_vendorTable members declared
    exact ⟨course, rfl, table⟩
  | controllerTable entries =>
    obtain ⟨declared, rfl⟩ := takes_nothing.mp run
    obtain ⟨course, table⟩ := course_controllerTable members declared
    exact ⟨course, rfl, table⟩
  | codecFiles codec =>
    obtain ⟨⟨layouts, platforms⟩, u, filed, rest⟩ := takes_bind.mp run
    obtain ⟨rfl, rfl⟩ := takes_pure.mp rest
    obtain ⟨course, laid, platformed⟩ := yields_codecFiles s.directory codec rfl members filed
    exact ⟨course, layouts, platforms, rfl, laid, platformed⟩
  | lookupEntry entry => exact course_singleton (yields_lookupEntry entry) trivial members run
  | kextInfo info => exact course_singleton (yields_kextInfo info) trivial members run
  | vendorGroup group => exact course_singleton (yields_vendorGroup group) trivial members run
  | codecBundle bundle => exact course_singleton (yields_codecBundle bundle) trivial members run
  | codecInfo info => exact course_singleton (yields_codecInfo _ info) rfl members run
  | codecFile file => exact course_singleton (yields_codecFile _ file) rfl members run
  | controller entry => exact course_singleton (yields_controller entry) trivial members run
  | patches list => exact course_singleton (yields_patches list) trivial members run
  | patch p => exact course_singleton (yields_patch p) trivial members run
  | revisions codes => exact course_singleton (yields_revisions codes) trivial members run

end CodecTables.Compile
