import CodecTables.Proofs.Compile.Balance
import CodecTables.Proofs.Compile.Kexts
import CodecTables.Proofs.Generate.Counts

/-!
# Reading a generated source back

A source can be read as its users read it: from each table to its rows, and from a name in a row to
the elements of the only array that is declared under this name (`read?`). What is read is an
outline of the resources, with all that compiling keeps of them; bytes are told by their digests.
Reading a source that was built gives the outline of what it was built from, and each array that is
not of bytes is used once, so that no two resources share one (`build_read_back`).
-/

namespace CodecTables.Generate

open Compile
open Data.Sha256 (hexDigest)
open Files (Path Tree)
open Resource
open Source (Node)

variable {α β : Type}

/-! ### Outlines -/

/-- What the row of an entry of the lookup table tells. -/
structure LookupOutline where
  tree : List String
  controllerCount : Int
  detect : Bool

/-- A patch, with the place of its kext if there is one, and the digests of its bytes. -/
structure PatchOutline where
  place : Option Nat
  find : String
  replace : String
  size : Int
  count : Int
  minKernel : Int
  maxKernel : Int

/-- A file, with the digest of its bytes if it could be read. -/
structure FileOutline where
  content : Option String
  size : Int
  minKernel : Int
  maxKernel : Int
  id : Int

/-- What the row of a codec tells. -/
structure CodecOutline where
  name : String
  id : Int
  revisions : List Int
  platforms : List FileOutline
  layouts : List FileOutline
  patches : List PatchOutline

/-- What the row of a vendor tells. -/
structure GroupOutline where
  label : String
  id : Int
  codecs : List CodecOutline

/-- What the row of a controller tells. -/
structure ControllerOutline where
  description : String
  vendor : Int
  device : Int
  revisions : List Int
  platform : Int
  model : String
  patches : List PatchOutline

/-- What a source says of resources. -/
structure Outline where
  lookup : List LookupOutline
  kexts : List KextInfo
  groups : List GroupOutline
  controllers : List ControllerOutline

/-- What there is to tell of an entry of the lookup table. -/
def lookupOutline (entry : LookupEntry) : LookupOutline :=
  ⟨entry.tree, entry.controllerCount, entry.detect⟩

/-- What there is to tell of a patch, with the place of its kext. -/
def patchOutline (table : KextTable) (p : Patch) : PatchOutline :=
  ⟨place? table.entries p.executable, hexDigest p.find, hexDigest p.replace, p.size, p.count,
    p.minKernel, p.maxKernel⟩

/-- What there is to tell of a file; one that cannot be read has no content. -/
def fileOutline (files : Tree) (directory : Path) (file : CodecFile) : FileOutline :=
  match files.read (directory.join (.ofString file.path)) with
  | .ok bytes => ⟨some (hexDigest bytes), bytes.length, file.minKernel, file.maxKernel, file.id⟩
  | .error _ => ⟨none, 0, file.minKernel, file.maxKernel, file.id⟩

/-- The outline of a codec, with its own files, patches and revisions. -/
def codecOutline (files : Tree) (table : KextTable) (bundle : CodecBundle) : CodecOutline where
  name := bundle.info.codecName
  id := bundle.info.id
  revisions := bundle.info.revisions
  platforms := bundle.info.files.platforms.map (fileOutline files bundle.path)
  layouts := bundle.info.files.layouts.map (fileOutline files bundle.path)
  patches := bundle.info.patches.map (patchOutline table)

/-- What there is to tell of the bundles of a vendor. -/
def groupOutline (files : Tree) (table : KextTable) (group : VendorGroup) : GroupOutline :=
  ⟨group.vendor.label, group.vendor.id, group.bundles.map (codecOutline files table)⟩

/-- What there is to tell of a controller. -/
def controllerOutline (table : KextTable) (entry : Controller) : ControllerOutline where
  description := entry.description
  vendor := entry.vendor.id
  device := entry.device
  revisions := entry.revisions
  platform := entry.platform
  model := entry.model.symbol
  patches := entry.patches.map (patchOutline table)

/-- The outline of all resources, in their order. -/
def outlineOf (files : Tree) (tables : Directory.Tables) (groups : List VendorGroup) : Outline where
  lookup := tables.lookup.map lookupOutline
  kexts := tables.kexts.entries.map (·.2)
  groups := groups.map (groupOutline files tables.kexts)
  controllers := tables.controllers.map (controllerOutline tables.kexts)

/-! ### Reading -/

/-- The text of a string literal. -/
def text? : Node → Option String
  | .string content => some content
  | _ => none

/-- The value of a hexadecimal literal. -/
def hex? : Node → Option Int
  | .hexInteger value _ => some value
  | _ => none

/-- The value of a hexadecimal literal, if it is a byte. -/
def byte? : Node → Option UInt8
  | .hexInteger value _ => if 0 ≤ value ∧ value < 256 then some (.ofNat value.toNat) else none
  | _ => none

/-- The node is the given number. -/
def isCount : Node → Nat → Bool
  | .integer n, count => n == count
  | _, _ => false

/-- The place in the kext table that an expression is the address of. -/
def kextPlace? : Node → Option Nat
  | .lookup (.addressOf (.identifier table)) (.integer place) =>
    if table = defaultKextTable then place.toNat? else none
  | _ => none

section Source

variable (source : List Node)

/-- The elements of the only array that is declared under a name. -/
def elements? (name : String) : Option (List Node) :=
  match Source.declarations source name with
  | [declaration] => declaration.value?.bind Node.parts?
  | _ => none

/-- What the elements of the array that an expression names are read as. -/
def array? (read : Node → Option α) : Node → Option (List α)
  | .identifier name => (elements? source name).bind fun elements => elements.mapM read
  | _ => none

/-- An array with the number of its elements beside it. -/
def counted? (read : Node → Option α) (array count : Node) : Option (List α) :=
  (array? source read array).filter fun list => isCount count list.length

/-- The digest of the bytes that an expression names. -/
def digest? (node : Node) : Option String := (array? source byte? node).map hexDigest

/-- The digest of the bytes of a file, or none where a null pointer stands for them. -/
def content? : Node → Option (Option String)
  | .nullPointer => some none
  | node => (digest? source node).map some

/-- Revision codes; a null pointer stands for no codes, and nothing else does. -/
def revisions? : Node → Node → Option (List Int)
  | .nullPointer, count => if isCount count 0 then some [] else none
  | array, count => (counted? source hex? array count).filter fun codes => !codes.isEmpty

/-- Reads the row of an entry of the lookup table. -/
def lookupRow? : Node → Option LookupOutline
  | .literal [tree, depth, .integer controllerCount, .boolean detect] => do
    let tree ← counted? source text? tree depth
    return ⟨tree, controllerCount, detect⟩
  | _ => none

/-- Reads the row of a kext. -/
def kextRow? : Node → Option KextInfo
  | .literal [.string identifier, paths, count, .literal [.boolean false, .boolean reloadable],
      .literal [.boolean detect], _] => do
    let paths ← counted? source text? paths count
    return ⟨identifier, paths, reloadable, detect⟩
  | _ => none

/-- Reads the row of a patch. -/
def patchRow? : Node → Option PatchOutline
  | .literal [.literal [kext, find, replace, .integer size, .integer count], .integer minKernel,
      .integer maxKernel] => do
    let place ← kextPlace? kext
    let find ← digest? source find
    let replace ← digest? source replace
    return ⟨some place, find, replace, size, count, minKernel, maxKernel⟩
  | _ => none

/-- Reads the row of a file. -/
def fileRow? : Node → Option FileOutline
  | .literal [content, .integer size, .integer minKernel, .integer maxKernel, .integer id] => do
    let content ← content? source content
    return ⟨content, size, minKernel, maxKernel, id⟩
  | _ => none

/-- Reads the row of a codec. -/
def codecRow? : Node → Option CodecOutline
  | .literal [.string name, .hexInteger id _, revisions, revisionCount, platforms, platformCount,
      layouts, layoutCount, patches, patchCount] => do
    let revisions ← revisions? source revisions revisionCount
    let platforms ← counted? source (fileRow? source) platforms platformCount
    let layouts ← counted? source (fileRow? source) layouts layoutCount
    let patches ← counted? source (patchRow? source) patches patchCount
    return ⟨name, id, revisions, platforms, layouts, patches⟩
  | _ => none

/-- Reads the row of a vendor. -/
def groupRow? : Node → Option GroupOutline
  | .literal [.string label, .hexInteger id _, codecs, count] => do
    let codecs ← counted? source (codecRow? source) codecs count
    return ⟨label, id, codecs⟩
  | _ => none

/-- Reads the row of a controller. -/
def controllerRow? : Node → Option ControllerOutline
  | .literal [.string description, .hexInteger vendor _, .hexInteger device _, revisions,
      revisionCount, .integer platform, .identifier model, patches, patchCount] => do
    let revisions ← revisions? source revisions revisionCount
    let patches ← counted? source (patchRow? source) patches patchCount
    return ⟨description, vendor, device, revisions, platform, model, patches⟩
  | _ => none

/-- The number of the rows of a table is declared once, and is that of the given rows. -/
def isSized (name : String) (rows : List Node) : Bool :=
  match Source.declarations source (sizeName name) with
  | [declaration] => declaration.value?.any fun size => isCount size rows.length
  | _ => false

/-- Reads the rows of a table whose size is declared as well. -/
def table? (name : String) (read : Node → Option α) : Option (List α) :=
  ((elements? source name).filter (isSized source name)).bind fun rows => rows.mapM read

/-- What a source says of resources, by its four tables and all that they lead to. -/
def read? : Option Outline := do
  let lookup ← table? source lookupTableName (lookupRow? source)
  let kexts ← table? source defaultKextTable (kextRow? source)
  let groups ← table? source vendorTableName (groupRow? source)
  let controllers ← table? source controllerTableName (controllerRow? source)
  return ⟨lookup, kexts, groups, controllers⟩

end Source

/-! ### Rows -/

/-- The names in a source lead to one declaration each, and its rows are read against it and a kext
table. -/
structure Readable (r : Reading) (table : KextTable) : Prop where
  once : ∀ name, (Source.declaredNames r.source).count name ≤ 1
  bytes : ∀ {data node}, r.refers data node → digest? r.source node = some (hexDigest data)
  place : ∀ {executable place}, r.place executable place → table.Resolves executable place
  kextTable : r.kextTable = defaultKextTable

/-- Expressions are read as a list if each is read as an element of it. -/
theorem mapM_of_forall₂ {read : Node → Option β} {row : α → Node → Prop} {outline : α → β}
    (each : ∀ a node, row a node → read node = some (outline a)) {as : List α} {nodes : List Node}
    (rows : List.Forall₂ row as nodes) : nodes.mapM read = some (as.map outline) := by
  induction rows with
  | nil => rfl
  | cons first _ ih => simp [List.mapM_cons, each _ _ first, ih]

theorem mapM_map (read : Node → Option α) (node : α → Node)
    (each : ∀ a, read (node a) = some a) (as : List α) : (as.map node).mapM read = some as := by
  induction as with
  | nil => rfl
  | cons a as ih => simp [List.mapM_cons, each, ih]

/-- The elements of an array that is declared once are found under its name. -/
theorem elements?_of_mem {source : List Node} {name : String} {declaration value : Node}
    {elements : List Node} (once : (Source.declaredNames source).count name ≤ 1)
    (member : declaration ∈ source) (declared : declaration.declares? = some name)
    (holdsValue : declaration.value? = some value) (parts : value.parts? = some elements) :
    elements? source name = some elements := by
  rw [elements?, Source.declarations_eq_singleton member declared once]
  simp [holdsValue, parts]

/-- An array with the right number beside it. -/
theorem counted?_of_array? {source : List Node} {read : Node → Option α} {array : Node}
    {list : List α} (reads : array? source read array = some list) {count : Nat}
    (length : count = list.length) :
    counted? source read array (.integer count) = some list := by
  simp [counted?, reads, isCount, length]

theorem content?_of_digest? {source : List Node} {node : Node} {digest : String}
    (reads : digest? source node = some digest) : content? source node = some (some digest) := by
  cases node with
  | nullPointer => cases reads
  | _ => simp [content?, reads]

namespace Readable

variable {r : Reading} {table : KextTable} (readable : Readable r table)

include readable

theorem array?_of_names {read : Node → Option α} {element node : Node} {elements : List Node}
    (names : r.Names element elements node) :
    array? r.source read node = elements.mapM read := by
  obtain ⟨name, rfl, member⟩ := names
  rw [array?, elements?_of_mem (readable.once name) member rfl rfl rfl]
  rfl

theorem lookupRow {entry : LookupEntry} {row : Node} (reads : r.LookupRow entry row) :
    lookupRow? r.source row = some (lookupOutline entry) := by
  obtain ⟨tree, names, rfl⟩ := reads
  have texts : array? r.source text? tree = some entry.tree :=
    (readable.array?_of_names names).trans (mapM_map text? .string (fun _ => rfl) _)
  simp [lookupRow?, counted?_of_array? texts rfl, lookupOutline]

theorem kextRow {info : KextInfo} {row : Node} (reads : r.KextRow info row) :
    kextRow? r.source row = some info := by
  obtain ⟨paths, names, rfl⟩ := reads
  have texts : array? r.source text? paths = some info.paths :=
    (readable.array?_of_names names).trans (mapM_map text? .string (fun _ => rfl) _)
  simp [kextRow?, counted?_of_array? texts rfl]

theorem patchRow {p : Patch} {row : Node} (reads : r.PatchRow p row) :
    patchRow? r.source row = some (patchOutline table p) := by
  obtain ⟨place, find, replace, placed, found, replaced, rfl⟩ := reads
  have resolved : place? table.entries p.executable = some place :=
    place?_eq_some.mpr (readable.place placed)
  have own : (place : Int).toNat? = some place := rfl
  simp [patchRow?, kextPlace?, readable.kextTable, readable.bytes found, readable.bytes replaced,
    patchOutline, resolved, own]

theorem patchArray {list : List Patch} {node : Node} (reads : r.PatchArray list node) :
    counted? r.source (patchRow? r.source) node (.integer list.length) =
      some (list.map (patchOutline table)) := by
  obtain ⟨rows, each, names⟩ := reads
  refine counted?_of_array? ((readable.array?_of_names names).trans ?_) (List.length_map _).symm
  exact mapM_of_forall₂ (fun _ _ row => readable.patchRow row) each

theorem revisionArray {codes : List Int} {node : Node} (reads : r.RevisionArray codes node) :
    revisions? r.source node (.integer codes.length) = some codes := by
  rcases reads with ⟨rfl, rfl⟩ | ⟨present, names⟩
  · rfl
  · have values : array? r.source hex? node = some codes :=
      (readable.array?_of_names names).trans (mapM_map hex? _ (fun _ => rfl) _)
    obtain ⟨name, rfl, _⟩ := names
    simp [revisions?, counted?_of_array? values rfl, present]

theorem fileRow {directory : Path} {file : CodecFile} {row : Node}
    (reads : r.FileRow directory file row) :
    fileRow? r.source row = some (fileOutline r.files directory file) := by
  obtain ⟨content, size, holds, rfl⟩ := reads
  unfold fileOutline
  generalize r.files.read _ = read at holds ⊢
  cases holds with
  | present refers => simp [fileRow?, content?_of_digest? (readable.bytes refers)]
  | absent problem => rfl

theorem fileArray {directory : Path} {list : List CodecFile} {node : Node}
    (reads : r.FileArray directory list node) :
    counted? r.source (fileRow? r.source) node (.integer list.length) =
      some (list.map (fileOutline r.files directory)) := by
  obtain ⟨rows, each, names⟩ := reads
  refine counted?_of_array? ((readable.array?_of_names names).trans ?_) (List.length_map _).symm
  exact mapM_of_forall₂ (fun _ _ row => readable.fileRow row) each

theorem codecRow {bundle : CodecBundle} {row : Node}
    (reads : r.CodecRow bundle.path bundle.info row) :
    codecRow? r.source row = some (codecOutline r.files table bundle) := by
  obtain ⟨layouts, platforms, patches, revisions, laid, platformed, patched, revised, rfl⟩ := reads
  simp [codecRow?, Source.hexOf, readable.revisionArray revised, readable.fileArray platformed,
    readable.fileArray laid, readable.patchArray patched, codecOutline]

theorem groupRow {group : VendorGroup} {row : Node} (reads : r.GroupRow group row) :
    groupRow? r.source row = some (groupOutline r.files table group) := by
  obtain ⟨rows, name, each, declared, rfl⟩ := reads
  have codecs : array? r.source (codecRow? r.source) (.identifier name) =
      some (group.bundles.map (codecOutline r.files table)) := by
    rw [array?, elements?_of_mem (readable.once name) declared rfl rfl rfl]
    exact mapM_of_forall₂ (fun _ _ row => readable.codecRow row) each
  simp [groupRow?, Source.hexOf, counted?_of_array? codecs (List.length_map _).symm, groupOutline]

theorem controllerRow {entry : Controller} {row : Node} (reads : r.ControllerRow entry row) :
    controllerRow? r.source row = some (controllerOutline table entry) := by
  obtain ⟨patches, revisions, patched, revised, rfl⟩ := reads
  simp [controllerRow?, Source.hexOf, readable.revisionArray revised, readable.patchArray patched,
    controllerOutline]

/-- A table is read entry by entry, and the number of its rows is right. -/
theorem entries {struct name : String} {row : α → Node → Prop} {list : List α}
    {read : Node → Option β} {outline : α → β}
    (each : ∀ a node, row a node → read node = some (outline a))
    (reads : r.Table struct name row list) :
    table? r.source name read = some (list.map outline) := by
  obtain ⟨rows, listed, declared, sized⟩ := reads
  have size : isSized r.source name rows = true := by
    rw [isSized, Source.declarations_eq_singleton sized rfl (readable.once _)]
    simp [Node.value?, Node.declareConst, isCount]
  have elements := elements?_of_mem (readable.once name) declared rfl rfl rfl
  rw [table?, elements, Option.filter_some_pos size]
  exact mapM_of_forall₂ each listed

end Readable

/-! ### A whole source -/

/-- How the source of a state is read after a kext table. -/
def followed (s : State) (table : KextTable) (files : Tree) : Reading :=
  { s.reading (fun _ => True) files with place := table.Resolves }

/-- The kexts that are known are those of a table, if there are any. -/
def Known (table : KextTable) (s : State) : Prop :=
  ∀ ⦃executable place⦄, Plist.Dictionary.find? s.kexts executable = some place →
    table.Resolves executable place

/-- What is said while the kexts are those of the table is said in the end. -/
theorem within_followed {s t : State} {table : KextTable} (files : Tree) (known : Known table s)
    (grown : Extends s t) :
    (s.reading (fun _ => True) files).Within (followed t table files) where
  source := grown.mem
  refers := fun ⟨member, name, held, same⟩ => ⟨member, name, grown.buffers held, same⟩
  place := fun found => known found
  kextTable := grown.kextTable
  files := rfl

/-- In the end, the expressions for entities say what these are, if all kexts are of one table. -/
theorem means_visits {table : KextTable} {list : List Visit} {results : List (List Node)}
    {s t : State} (plain : NameSupply.isPlain s.kextTable = true) (known : Known table s)
    (tables : ∀ visit ∈ list, ∀ other, visit.entity.kextTable? = some other → other = table)
    (run : Takes (visits buffer list) s results t) :
    List.Forall₂ (fun visit nodes => ∃ directory,
      (followed t table visit.files).Means directory visit.entity nodes) list results := by
  have steps := takes_mapM.mp run
  clear run
  induction steps with
  | nil s => exact .nil
  | @cons s u t visit nodes rest results first steps ih =>
    obtain ⟨course, means⟩ : Course (fun _ => True) visit.files _ _ _ u ∧ _ :=
      course_entity plain (fun _ _ => trivial) first
    have still : Known table u := by
      rw [Known, course.kexts]
      cases entity : visit.entity with
      | kextTable own =>
        rw [tables visit List.mem_cons_self own (by rw [entity]; rfl)]
        exact fun _ _ found => find?_notePlaces_eq_some.mp found
      | _ => exact known
    have grown : Extends u t :=
      (frame_extends.mapM rest fun visit _ =>
        extends_entityWith extends_buffer visit.files visit.entity).of_takes (takes_mapM.mpr steps)
    refine .cons ⟨s.directory, means.mono (within_followed visit.files still grown)⟩ ?_
    refine ih ?_ still fun visit member => tables visit (List.mem_cons_of_mem _ member)
    rwa [((extends_entityWith extends_buffer _ _).of_takes first).kextTable]

/-- An array of bytes is read as the digest of its bytes. -/
theorem digest?_of_mem {source : List Node} {data : List UInt8} {name : String}
    (once : (Source.declaredNames source).count name ≤ 1)
    (member : Source.declareBytes data name ∈ source) :
    digest? source (.identifier name) = some (hexDigest data) := by
  have byte (b : UInt8) : byte? (.hexInteger b.toNat Node.defaultWidth) = some b := by
    have bound := b.toNat_lt
    have small : (b.toNat : Int) < 256 := by omega
    simp [byte?, small]
  have bytes : array? source byte? (.identifier name) = some data := by
    rw [array?, elements?_of_mem once member rfl rfl rfl]
    exact mapM_map byte? _ byte data
  rw [digest?, bytes, Option.map_some]

/-- A source in which all that is held is declared once can be read. -/
theorem readable_followed {t : State} {held : List (List UInt8 × String)} (table : KextTable)
    (files : Tree) (once : ∀ name, (Source.declaredNames t.statements).count name ≤ 1)
    (holds : Holds t held) (kextTable : t.kextTable = defaultKextTable) :
    Readable (followed t table files) table where
  once := once
  bytes := by
    rintro data node ⟨_, name, known, rfl⟩
    obtain ⟨array, inside, digest, rfl⟩ := holds.lookup known
    have listed : Source.declareBytes array.1 array.2 ∈ Source.byteArrays t.statements := by
      rw [holds.arrays]
      exact List.mem_map.mpr ⟨array, inside, rfl⟩
    rw [← digest]
    exact digest?_of_mem (once _) (List.mem_filter.mp listed).1
  place placed := placed
  kextTable := kextTable

/-- A run of the entities of a source gives no expressions, and what it leaves is read as what they
are. -/
theorem read?_of_run {files : Tree} {tables : Directory.Tables} {groups : List VendorGroup}
    {s t : State} {results : List (List Node)} (kexts : s.kexts = [])
    (kextTable : s.kextTable = defaultKextTable)
    (run : Takes (visits buffer (visitsOf files tables groups)) s results t)
    (readable : Readable (followed t tables.kexts files) tables.kexts) :
    results.flatten = [] ∧ read? t.statements = some (outlineOf files tables groups) := by
  have plain : NameSupply.isPlain s.kextTable = true := by
    rw [kextTable]
    exact NameSupply.isPlain_kextTable
  have known : Known tables.kexts s := by
    rw [Known, kexts]
    exact nofun
  have each := means_visits plain known (by simp [visitsOf, Generator.entities, Entity.kextTable?])
    run
  simp only [visitsOf, Generator.entities, List.map_cons, List.map_nil,
    List.forall₂_cons_left_iff, List.forall₂_nil_left_iff] at each
  obtain ⟨_, _, ⟨_, rfl, lookup⟩, ⟨_, _, ⟨_, rfl, kext⟩, ⟨_, _, ⟨_, rfl, vendors⟩, ⟨_, _,
    ⟨_, rfl, controllers⟩, rfl, rfl⟩, rfl⟩, rfl⟩, rfl⟩ := each
  refine ⟨rfl, ?_⟩
  rw [readable.kextTable] at kext
  have lookup : table? t.statements lookupTableName (lookupRow? t.statements) =
      some (tables.lookup.map lookupOutline) :=
    readable.entries (fun _ _ row => readable.lookupRow row) lookup
  have kext : table? t.statements defaultKextTable (kextRow? t.statements) =
      some (tables.kexts.entries.map (·.2)) :=
    readable.entries (fun _ _ row => readable.kextRow row) kext
  have vendors : table? t.statements vendorTableName (groupRow? t.statements) =
      some (groups.map (groupOutline files tables.kexts)) :=
    readable.entries (fun _ _ row => readable.groupRow row) vendors
  have controllers : table? t.statements controllerTableName (controllerRow? t.statements) =
      some (tables.controllers.map (controllerOutline tables.kexts)) :=
    readable.entries (fun _ _ row => readable.controllerRow row) controllers
  simp [read?, lookup, kext, vendors, controllers, outlineOf]

/-- What is declared and is no array of bytes, table or number of rows is named as other arrays
are. -/
theorem namesOther_of_declares {among : List UInt8 → Prop} {settings : Settings}
    {lines : List String} {used : List (List UInt8)} {state : State}
    (courses : Courses among (opened settings lines) used tableTypes state) {declaration : Node}
    (member : declaration ∈ state.statements) (bytes : declaration.isByteArray = false)
    {name : String} (declared : declaration.declares? = some name) (own : name ∉ tableNames) :
    NamesOther name := by
  have begun : NamedApart (opened settings lines) :=
    NamedApart.start (declaredNames_opened settings lines) _ _
  rcases begun.courses courses declaration member bytes name declared with plain | other
  · have listed : name ∈ Source.declaredNames state.statements :=
      List.mem_filterMap.mpr ⟨declaration, member, declared⟩
    have table : name ∈ plainNames state.statements := List.mem_filter.mpr ⟨listed, plain⟩
    rw [plainNames_of_courses courses] at table
    exact absurd table own
  · exact other

/-- A source that is built is read as the outline of all that it was built from, in order. Each of
its declarations, other than of an array of bytes, a table or a number of rows, is used once in the
whole source: no two rows share an array. -/
theorem build_read_back {generator : Generator} {groups : List VendorGroup} {w w' : Workspace}
    {source : List Node} (built : outcome (generator.build (some groups)) w = (.ok source, w')) :
    read? source = some (outlineOf w.files generator.tables groups) ∧
    ∀ declaration ∈ source, declaration.isByteArray = false →
      ∀ name ∉ tableNames, declaration.declares? = some name →
        (Source.usedNames source).count name = 1 := by
  obtain ⟨lines, results, state, run, rfl⟩ := takes_of_build built
  have plain : NameSupply.isPlain (opened generator.settings lines).kextTable = true :=
    NameSupply.isPlain_kextTable
  have courses : Courses (fun _ => True) (opened generator.settings lines) _ tableTypes state :=
    courses_visits plain (fun _ _ => trivial) run
  obtain ⟨held, holds, _⟩ := (Holds.start (byteArrays_opened _ _) _ _).courses courses
  have once := count_of_courses courses
  have readable := readable_followed generator.tables.kexts w.files once holds
    courses.grows.kextTable
  obtain ⟨nothing, reads⟩ := read?_of_run rfl rfl run readable
  refine ⟨reads, fun declaration member bytes name own declared => ?_⟩
  have other : NamesOther name := namesOther_of_declares courses member bytes declared own
  have apart : Apart name (opened generator.settings lines) :=
    .start _ _ _ (other.ne_of_isPlain NameSupply.isPlain_kextTable)
  have balance := balance_visits other plain apart run
  have listed : name ∈ Source.declaredNames state.statements :=
    List.mem_filterMap.mpr ⟨declaration, member, declared⟩
  have single : (Source.declaredNames state.statements).count name = 1 :=
    Nat.le_antisymm (once name) (List.count_pos_iff.mpr listed)
  rw [nothing, Balance, usedNames_opened, declaredNames_opened, single] at balance
  simpa [Source.identifiersOf] using balance.symm

theorem build_read_back_oneBundle : ∃ source w',
    outcome (oneKext.build (some oneBundle)) oneFile = (.ok source, w') ∧
    read? source = some (outlineOf oneFile.files oneKext.tables oneBundle) := by
  obtain ⟨source, w', built⟩ := exists_build_oneBundle
  exact ⟨source, w', built, (build_read_back built).1⟩

end CodecTables.Generate
