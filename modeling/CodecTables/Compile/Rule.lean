import CodecTables.Compile.State
import CodecTables.Files.Tree

/-!
# Compiling resources

Each entity adds to the source the declarations that it needs and is given as an expression that
refers to them: a row of the table that it belongs to, the name of an array, or a null pointer. A
table adds its rows and their number. Patches refer to kexts by their places, so the kext table has
to be compiled before anything that has patches.
-/

namespace CodecTables.Compile

open Files (Path Tree)
open Plist (Scalar)
open Resource
open Source (Node)

/-! ### Tables -/

/-- The name of the codec lookup table. -/
def lookupTableName : String := "ADDPR(codecLookupTable)"

/-- The name of the table of vendors. -/
def vendorTableName : String := "ADDPR(vendorMods)"

/-- The name of the table of controllers. -/
def controllerTableName : String := "ADDPR(controllerTable)"

/-- The name of the number of rows of a table: `Size` before the bracket that ends the table's
name. -/
def sizeName (table : String) : String := String.ofList table.toList.dropLast ++ "Size)"

/-- Opens a section of the source with its title. -/
def openSection (title : String) : Step Unit := emit (.comment ("MARK:- " ++ title ++ "\n"))

/-- Declares a table of rows, and the number of its rows as a constant. -/
def declareTable (struct name : String) (rows : List Node) : Step Unit := do
  emit (.declare (← structArray struct) name (.literal rows))
  emit (.declareConst .sizeType (sizeName name) (.integer rows.length))

/-! ### Codec lookup -/

/-- The row of an entry of the lookup table, after the array of its tree. -/
def lookupEntry (entry : LookupEntry) : Step Node := do
  let tree ← stringArray "tree" entry.tree
  return .literal
    [.identifier tree, .integer entry.tree.length, .integer entry.controllerCount,
      .boolean entry.detect]

/-- Declares the codec lookup table. -/
def lookupTable (entries : List LookupEntry) : Step Unit := do
  openSection "Codec Lookup Section"
  let rows ← entries.mapM lookupEntry
  declareTable "CodecLookupInfo" lookupTableName rows

/-! ### Kexts -/

/-- Notes the place of a kext. Its name takes the place even if an identifier has it; its identifier
takes it only if nothing else has. -/
def notePlace (places : List (Scalar × Nat)) (name : Scalar) (identifier : String) (place : Nat) :
    List (Scalar × Nat) :=
  let places := Plist.Dictionary.insert places name place
  if (Plist.Dictionary.find? places identifier).isSome then places
  else places ++ [(.string identifier, place)]

/-- The places of kexts by their names and identifiers, the first of them at the given place. -/
def notePlaces (places : List (Scalar × Nat)) (place : Nat) :
    List (Scalar × KextInfo) → List (Scalar × Nat)
  | [] => places
  | (name, info) :: rest =>
    notePlaces (notePlace places name info.identifier place) (place + 1) rest

/-- The row of a kext, after the array of its paths. -/
def kextInfo (info : KextInfo) : Step Node := do
  let paths ← stringArray "kextPath" info.paths
  return .literal
    [.string info.identifier, .identifier paths, .integer info.paths.length,
      .literal [.boolean false, .boolean info.reloadable], .literal [.boolean info.detect],
      .identifier "KernelPatcher::KextInfo::Unloaded"]

/-- The kext table. Its kexts take the place of all that were known before. -/
def kextTable (table : KextTable) : Step Unit := do
  openSection "Kexts Section"
  modify fun s => { s with kexts := notePlaces [] 0 table.entries }
  let rows ← table.entries.mapM fun entry => kextInfo entry.2
  declareTable "KernelPatcher::KextInfo" (← get).kextTable rows

/-! ### Patches and revisions

The rules of all entities with bytes leave it open how bytes are stored. -/

section Storage

variable (store : Storage)

/-- The row of a patch. Its buffers are in the source before its kext is looked for. -/
def patch (patch : Patch) : Step Node := do
  let find ← store patch.find "patchBuf"
  let replace ← store patch.replace "patchBuf"
  let state ← get
  match Plist.Dictionary.find? state.kexts patch.executable with
  | none => throw (.unknownKext patch.executable)
  | some place =>
    let change := .literal
      [.lookup (.addressOf (.identifier state.kextTable)) (.integer place), .identifier find,
        .identifier replace, .integer patch.size, .integer patch.count]
    return .literal [change, .integer patch.minKernel, .integer patch.maxKernel]

/-- Declares an array of patches and gives its name. -/
def patches (list : List Patch) : Step Node := do
  let rows ← list.mapM (patch store)
  let name ← fresh "patches"
  emit (.declareStaticConst (← structArray "KextPatch") name (.literal rows))
  return .identifier name

/-- An array of revision codes, or a null pointer if there are none. -/
def revisions (codes : List Int) : Step Node := do
  if codes.isEmpty then return .nullPointer
  else
    let name ← fresh "revisions"
    emit (.declareStaticConst (Source.uintArray 32) name
      (.literal (codes.map fun code => Source.hexOf code 32)))
    return .identifier name

/-! ### Codecs -/

/-- The row of a codec file. A file that cannot be read is warned of and stands as a null pointer
of size zero. -/
def codecFile (files : Tree) (file : CodecFile) : Step Node := do
  let directory := (← get).directory
  let (content, size) ← match files.read (directory.join (.ofString file.path)) with
    | .ok bytes => do pure (Node.identifier (← store bytes "file"), bytes.length)
    | .error .nulInPath => throw .nulInPath
    | .error problem => do
      warn ("Failed to read the requested file " ++ Text.quoted file.path ++ " in " ++
        directory.text ++ ": " ++ problem.reason)
      pure (Node.nullPointer, 0)
  return .literal
    [content, .integer size, .integer file.minKernel, .integer file.maxKernel, .integer file.id]

/-- The arrays of a codec's layouts and platforms. -/
def codecFiles (files : Tree) (codec : CodecFiles) : Step (Node × Node) := do
  let fileArray ← structArray "CodecModInfo::File"
  let layoutRows ← codec.layouts.mapM (codecFile store files)
  let platformRows ← codec.platforms.mapM (codecFile store files)
  let layouts ← fresh "layouts"
  let platforms ← fresh "platforms"
  emit (.declareStaticConst fileArray layouts (.literal layoutRows))
  emit (.declareStaticConst fileArray platforms (.literal platformRows))
  return (.identifier layouts, .identifier platforms)

/-- The row of a codec, after the arrays that it refers to. -/
def codecInfo (files : Tree) (info : CodecInfo) : Step Node := do
  let (layouts, platforms) ← codecFiles store files info.files
  let patchArray ← patches store info.patches
  let revisionArray ← revisions info.revisions
  return .literal
    [.string info.codecName, Source.hexOf info.id 16,
      revisionArray, .integer info.revisions.length,
      platforms, .integer info.files.platforms.length,
      layouts, .integer info.files.layouts.length,
      patchArray, .integer info.patches.length]

/-- The row of a codec bundle, whose files are looked for in its directory. -/
def codecBundle (files : Tree) (bundle : CodecBundle) : Step Node := do
  modify fun s => { s with directory := bundle.path }
  codecInfo store files bundle.info

/-- The row of a vendor, with the array of its codecs. -/
def vendorGroup (files : Tree) (group : VendorGroup) : Step Node := do
  openSection ("Codec Section [" ++ group.vendor.label ++ "]")
  let rows ← group.bundles.mapM (codecBundle store files)
  let name ← fresh "codecMod"
  emit (.declareStatic (← structArray "CodecModInfo") name (.literal rows))
  return .literal
    [.string group.vendor.label, Source.hexOf group.vendor.id 16, .identifier name,
      .integer group.bundles.length]

/-- The table of vendors, after a section for each of them. -/
def vendorTable (files : Tree) (groups : List VendorGroup) : Step Unit := do
  let rows ← groups.mapM (vendorGroup store files)
  openSection "Vendor Section"
  declareTable "VendorModInfo" vendorTableName rows

/-! ### Controllers -/

/-- The row of a controller, after the arrays that it refers to. -/
def controller (entry : Controller) : Step Node := do
  let patchArray ← patches store entry.patches
  let revisionArray ← revisions entry.revisions
  return .literal
    [.string entry.description, Source.hexOf entry.vendor.id 32, Source.hexOf entry.device 32,
      revisionArray, .integer entry.revisions.length, .integer entry.platform,
      .identifier entry.model.symbol, patchArray, .integer entry.patches.length]

/-- Declares the table of controllers. -/
def controllerTable (entries : List Controller) : Step Unit := do
  openSection "Controllers Section"
  let rows ← entries.mapM (controller store)
  declareTable "ControllerModInfo" controllerTableName rows

/-! ### All entities -/

/-- Compiles an entity and gives the expressions that refer to it: none for a table, the layouts and
the platforms for the files of a codec, and one for everything else. -/
def entityWith (files : Tree) : Entity → Step (List Node)
  | .lookupTable entries => do lookupTable entries; return []
  | .lookupEntry entry => return [← lookupEntry entry]
  | .kextTable table => do kextTable table; return []
  | .kextInfo info => return [← kextInfo info]
  | .vendorGroups groups => do vendorTable store files groups; return []
  | .vendorGroup group => return [← vendorGroup store files group]
  | .codecBundle bundle => return [← codecBundle store files bundle]
  | .codecInfo info => return [← codecInfo store files info]
  | .codecFiles codec => do
    let (layouts, platforms) ← codecFiles store files codec
    return [layouts, platforms]
  | .codecFile file => return [← codecFile store files file]
  | .controllerTable entries => do controllerTable store entries; return []
  | .controller entry => return [← controller store entry]
  | .patches list => return [← patches store list]
  | .patch p => return [← patch store p]
  | .revisions codes => return [← revisions codes]

end Storage

/-- Compiles an entity, with one array for equal bytes. -/
def entity (files : Tree) : Entity → Step (List Node) := entityWith buffer files

/-- Compiles entities one after the other. -/
def entities (files : Tree) (list : List Entity) : Step (List (List Node)) :=
  list.mapM (entity files)

end CodecTables.Compile
