import CodecTables.Proofs.Compile.Run
import Mathlib.Data.List.Forall2

/-!
# What rows say

The rows and arrays that are compiled refer to other declarations by name. Here they are read
against a source: a row says what an entity is if its plain fields are the entity's and its
references lead to declarations that hold the entity's parts, in order (`Reading.Means`). A row
keeps saying so when the source grows (`Reading.Means.mono`).
-/

namespace CodecTables.Compile

open Files (Path Problem Tree)
open Resource
open Source (Node)

variable {α : Type}

/-- What rows are read against. -/
structure Reading where
  /-- The source whose declarations rows refer to. -/
  source : List Node
  /-- The expressions that refer to bytes. -/
  refers : List UInt8 → Node → Prop
  /-- The place of a kext, by its name or its identifier. -/
  place : String → Nat → Prop
  /-- The name of the kext table. -/
  kextTable : String
  files : Tree

/-- All that can be read in the one can be read in the other. -/
structure Reading.Within (r r' : Reading) : Prop where
  source : ∀ {statement}, statement ∈ r.source → statement ∈ r'.source
  refers : ∀ {data node}, r.refers data node → r'.refers data node
  place : ∀ {executable place}, r.place executable place → r'.place executable place
  kextTable : r'.kextTable = r.kextTable
  files : r'.files = r.files

/-- How a source is read in a state, for some of all bytes: by the arrays that are known and by the
places of the kexts. -/
def State.reading (s : State) (among : List UInt8 → Prop) (files : Tree) : Reading where
  source := s.statements
  refers data node := among data ∧ ∃ name,
    s.buffers.lookup (Data.Sha256.hexDigest data) = some name ∧ node = .identifier name
  place executable place := Plist.Dictionary.find? s.kexts executable = some place
  kextTable := s.kextTable
  files := files

namespace Reading

section Rows

variable (r : Reading)

/-- The expression names an array of the given elements. -/
def Names (element : Node) (elements : List Node) (node : Node) : Prop :=
  ∃ name, node = .identifier name ∧
    .declareStaticConst (.arrayType element) name (.literal elements) ∈ r.source

/-- The row says what an entry of the lookup table is. -/
def LookupRow (entry : LookupEntry) (row : Node) : Prop :=
  ∃ tree, r.Names Source.stringType (entry.tree.map .string) tree ∧
    row = .literal
      [tree, .integer entry.tree.length, .integer entry.controllerCount, .boolean entry.detect]

/-- The row says what a kext is. -/
def KextRow (info : KextInfo) (row : Node) : Prop :=
  ∃ paths, r.Names Source.stringType (info.paths.map .string) paths ∧
    row = .literal
      [.string info.identifier, paths, .integer info.paths.length,
        .literal [.boolean false, .boolean info.reloadable], .literal [.boolean info.detect],
        .identifier "KernelPatcher::KextInfo::Unloaded"]

/-- The kext of a patch is the element of the kext table at its place. -/
def PatchRow (p : Patch) (row : Node) : Prop :=
  ∃ place find replace, r.place p.executable place ∧ r.refers p.find find ∧
    r.refers p.replace replace ∧
    row = .literal
      [.literal
        [.lookup (.addressOf (.identifier r.kextTable)) (.integer place), find, replace,
          .integer p.size, .integer p.count],
        .integer p.minKernel, .integer p.maxKernel]

/-- The expression names an array whose rows say what the patches are. -/
def PatchArray (list : List Patch) (node : Node) : Prop :=
  ∃ rows, List.Forall₂ r.PatchRow list rows ∧ r.Names (.structType "KextPatch") rows node

/-- There is no array of revisions if there are none. -/
def RevisionArray (codes : List Int) (node : Node) : Prop :=
  (codes = [] ∧ node = .nullPointer) ∨
    (codes ≠ [] ∧ r.Names Source.uint32 (codes.map fun code => Source.hexOf code 32) node)

/-- The expression for what was read from a file, and its size. A file that cannot be read has no
bytes. -/
inductive Content : Except Problem (List UInt8) → Node → Nat → Prop
  | present {bytes : List UInt8} {content : Node} :
      r.refers bytes content → Content (.ok bytes) content bytes.length
  | absent (problem : Problem) : Content (.error problem) .nullPointer 0

/-- The row of a codec file in a directory. -/
def FileRow (directory : Path) (file : CodecFile) (row : Node) : Prop :=
  ∃ content size, r.Content (r.files.read (directory.join (.ofString file.path))) content size ∧
    row = .literal
      [content, .integer size, .integer file.minKernel, .integer file.maxKernel, .integer file.id]

/-- The expression names an array whose rows say what the files are. -/
def FileArray (directory : Path) (list : List CodecFile) (node : Node) : Prop :=
  ∃ rows, List.Forall₂ (r.FileRow directory) list rows ∧
    r.Names (.structType "CodecModInfo::File") rows node

/-- The row of a codec whose files are in a directory. -/
def CodecRow (directory : Path) (info : CodecInfo) (row : Node) : Prop :=
  ∃ layouts platforms patches revisions,
    r.FileArray directory info.files.layouts layouts ∧
    r.FileArray directory info.files.platforms platforms ∧
    r.PatchArray info.patches patches ∧ r.RevisionArray info.revisions revisions ∧
    row = .literal
      [.string info.codecName, Source.hexOf info.id 16,
        revisions, .integer info.revisions.length,
        platforms, .integer info.files.platforms.length,
        layouts, .integer info.files.layouts.length,
        patches, .integer info.patches.length]

/-- The row of a vendor. Each codec has its files in the directory of its bundle. -/
def GroupRow (group : VendorGroup) (row : Node) : Prop :=
  ∃ rows name,
    List.Forall₂ (fun bundle => r.CodecRow bundle.path bundle.info) group.bundles rows ∧
    .declareStatic (Source.structArray "CodecModInfo") name (.literal rows) ∈ r.source ∧
    row = .literal
      [.string group.vendor.label, Source.hexOf group.vendor.id 16, .identifier name,
        .integer group.bundles.length]

/-- The row says what a controller is. -/
def ControllerRow (entry : Controller) (row : Node) : Prop :=
  ∃ patches revisions, r.PatchArray entry.patches patches ∧
    r.RevisionArray entry.revisions revisions ∧
    row = .literal
      [.string entry.description, Source.hexOf entry.vendor.id 32, Source.hexOf entry.device 32,
        revisions, .integer entry.revisions.length, .integer entry.platform,
        .identifier entry.model.symbol, patches, .integer entry.patches.length]

/-- The source holds a table with a row for each entry, and the number of its rows. -/
def Table (struct name : String) (row : α → Node → Prop) (entries : List α) : Prop :=
  ∃ rows, List.Forall₂ row entries rows ∧
    .declare (Source.structArray struct) name (.literal rows) ∈ r.source ∧
    .declareConst .sizeType (sizeName name) (.integer rows.length) ∈ r.source

/-- The expressions that are given for an entity say what it is. -/
def Means (directory : Path) : Entity → List Node → Prop
  | .lookupTable entries, nodes =>
    nodes = [] ∧ r.Table "CodecLookupInfo" lookupTableName r.LookupRow entries
  | .lookupEntry entry, nodes => ∃ row, nodes = [row] ∧ r.LookupRow entry row
  | .kextTable table, nodes =>
    nodes = [] ∧ r.Table "KernelPatcher::KextInfo" r.kextTable
      (fun entry => r.KextRow entry.2) table.entries
  | .kextInfo info, nodes => ∃ row, nodes = [row] ∧ r.KextRow info row
  | .vendorGroups groups, nodes =>
    nodes = [] ∧ r.Table "VendorModInfo" vendorTableName r.GroupRow groups
  | .vendorGroup group, nodes => ∃ row, nodes = [row] ∧ r.GroupRow group row
  | .codecBundle bundle, nodes => ∃ row, nodes = [row] ∧ r.CodecRow bundle.path bundle.info row
  | .codecInfo info, nodes => ∃ row, nodes = [row] ∧ r.CodecRow directory info row
  | .codecFiles codec, nodes => ∃ layouts platforms, nodes = [layouts, platforms] ∧
    r.FileArray directory codec.layouts layouts ∧ r.FileArray directory codec.platforms platforms
  | .codecFile file, nodes => ∃ row, nodes = [row] ∧ r.FileRow directory file row
  | .controllerTable entries, nodes =>
    nodes = [] ∧ r.Table "ControllerModInfo" controllerTableName r.ControllerRow entries
  | .controller entry, nodes => ∃ row, nodes = [row] ∧ r.ControllerRow entry row
  | .patches list, nodes => ∃ node, nodes = [node] ∧ r.PatchArray list node
  | .patch p, nodes => ∃ row, nodes = [row] ∧ r.PatchRow p row
  | .revisions codes, nodes => ∃ node, nodes = [node] ∧ r.RevisionArray codes node

end Rows

/-! ### Larger sources -/

section Mono

variable {r r' : Reading}

theorem Names.mono (within : r.Within r') {element node : Node} {elements : List Node}
    (names : r.Names element elements node) : r'.Names element elements node := by
  obtain ⟨name, same, declared⟩ := names
  exact ⟨name, same, within.source declared⟩

/-- A row still says what an entry is when more is declared. -/
theorem LookupRow.mono (within : r.Within r') {entry : LookupEntry} {row : Node}
    (reads : r.LookupRow entry row) : r'.LookupRow entry row := by
  obtain ⟨tree, names, same⟩ := reads
  exact ⟨tree, names.mono within, same⟩

/-- The row of a kext refers to a declaration only. -/
theorem KextRow.of_source (grown : r.source ⊆ r'.source) {info : KextInfo} {row : Node}
    (reads : r.KextRow info row) : r'.KextRow info row := by
  obtain ⟨paths, ⟨name, named, declared⟩, same⟩ := reads
  exact ⟨paths, ⟨name, named, grown declared⟩, same⟩

theorem KextRow.mono (within : r.Within r') {info : KextInfo} {row : Node}
    (reads : r.KextRow info row) : r'.KextRow info row :=
  reads.of_source fun _ member => within.source member

/-- A row still says what a patch is when more is declared. -/
theorem PatchRow.mono (within : r.Within r') {p : Patch} {row : Node}
    (reads : r.PatchRow p row) : r'.PatchRow p row := by
  obtain ⟨place, find, replace, placed, found, replaced, same⟩ := reads
  refine ⟨place, find, replace, within.place placed, within.refers found,
    within.refers replaced, ?_⟩
  rw [within.kextTable]
  exact same

/-- An array still says what patches are when more is declared. -/
theorem PatchArray.mono (within : r.Within r') {list : List Patch} {node : Node}
    (reads : r.PatchArray list node) : r'.PatchArray list node := by
  obtain ⟨rows, each, names⟩ := reads
  exact ⟨rows, each.imp fun _ _ row => row.mono within, names.mono within⟩

/-- An array still says what revisions are when more is declared. -/
theorem RevisionArray.mono (within : r.Within r') {codes : List Int} {node : Node}
    (reads : r.RevisionArray codes node) : r'.RevisionArray codes node :=
  reads.imp_right fun ⟨present, names⟩ => ⟨present, names.mono within⟩

theorem Content.mono (within : r.Within r') {found : Except Problem (List UInt8)} {content : Node}
    {size : Nat} (reads : r.Content found content size) : r'.Content found content size := by
  cases reads with
  | present refers => exact .present (within.refers refers)
  | absent problem => exact .absent problem

/-- A row still says what a file is when more is declared. -/
theorem FileRow.mono (within : r.Within r') {directory : Path} {file : CodecFile} {row : Node}
    (reads : r.FileRow directory file row) : r'.FileRow directory file row := by
  obtain ⟨content, size, reads, same⟩ := reads
  refine ⟨content, size, ?_, same⟩
  rw [within.files]
  exact reads.mono within

theorem FileArray.mono (within : r.Within r') {directory : Path} {list : List CodecFile}
    {node : Node} (reads : r.FileArray directory list node) :
    r'.FileArray directory list node := by
  obtain ⟨rows, each, names⟩ := reads
  exact ⟨rows, each.imp fun _ _ row => row.mono within, names.mono within⟩

/-- A row still says what a codec is when more is declared. -/
theorem CodecRow.mono (within : r.Within r') {directory : Path} {info : CodecInfo} {row : Node}
    (reads : r.CodecRow directory info row) : r'.CodecRow directory info row := by
  obtain ⟨layouts, platforms, patches, revisions, laid, platformed, patched, revised, same⟩ := reads
  exact ⟨layouts, platforms, patches, revisions, laid.mono within, platformed.mono within,
    patched.mono within, revised.mono within, same⟩

theorem GroupRow.mono (within : r.Within r') {group : VendorGroup} {row : Node}
    (reads : r.GroupRow group row) : r'.GroupRow group row := by
  obtain ⟨rows, name, each, declared, same⟩ := reads
  exact ⟨rows, name, each.imp fun _ _ row => row.mono within, within.source declared, same⟩

theorem ControllerRow.mono (within : r.Within r') {entry : Controller} {row : Node}
    (reads : r.ControllerRow entry row) : r'.ControllerRow entry row := by
  obtain ⟨patches, revisions, patched, revised, same⟩ := reads
  exact ⟨patches, revisions, patched.mono within, revised.mono within, same⟩

theorem Table.mono (within : r.Within r') {struct name : String} {row row' : α → Node → Prop}
    (each : ∀ a node, row a node → row' a node) {entries : List α}
    (table : r.Table struct name row entries) : r'.Table struct name row' entries := by
  obtain ⟨rows, reads, declared, sized⟩ := table
  exact ⟨rows, reads.imp each, within.source declared, within.source sized⟩

/-- What the expressions for an entity say they still say in a larger source. -/
theorem Means.mono (within : r.Within r') {directory : Path} {entity : Entity} {nodes : List Node}
    (means : r.Means directory entity nodes) : r'.Means directory entity nodes := by
  cases entity with
  | lookupTable entries => exact ⟨means.1, means.2.mono within fun _ _ row => row.mono within⟩
  | kextTable table =>
    refine ⟨means.1, ?_⟩
    rw [within.kextTable]
    exact means.2.mono within fun _ _ row => row.mono within
  | vendorGroups groups => exact ⟨means.1, means.2.mono within fun _ _ row => row.mono within⟩
  | controllerTable entries => exact ⟨means.1, means.2.mono within fun _ _ row => row.mono within⟩
  | codecFiles codec =>
    obtain ⟨layouts, platforms, same, laid, platformed⟩ := means
    exact ⟨layouts, platforms, same, laid.mono within, platformed.mono within⟩
  | lookupEntry entry => exact means.imp fun _ => And.imp_right fun row => row.mono within
  | kextInfo info => exact means.imp fun _ => And.imp_right fun row => row.mono within
  | vendorGroup group => exact means.imp fun _ => And.imp_right fun row => row.mono within
  | codecBundle bundle => exact means.imp fun _ => And.imp_right fun row => row.mono within
  | codecInfo info => exact means.imp fun _ => And.imp_right fun row => row.mono within
  | codecFile file => exact means.imp fun _ => And.imp_right fun row => row.mono within
  | controller entry => exact means.imp fun _ => And.imp_right fun row => row.mono within
  | patches list => exact means.imp fun _ => And.imp_right fun array => array.mono within
  | patch p => exact means.imp fun _ => And.imp_right fun row => row.mono within
  | revisions codes => exact means.imp fun _ => And.imp_right fun array => array.mono within

end Mono

end Reading

end CodecTables.Compile
