import CodecTables.Files.Path
import CodecTables.Plist.Value
import CodecTables.Resource.Vendor

/-!
# Resources

What the property lists of a resource directory describe: where codecs are looked up, the kexts that
patches apply to, the codecs with their files and patches, and the controllers. Codec bundles are
grouped by vendor.
-/

namespace CodecTables.Resource

open Files (Path)
open Plist (Scalar)

/-- Where to find a codec. -/
structure LookupEntry where
  tree : List String
  controllerCount : Int
  detect : Bool
  comment : String

/-- A kext: its bundle identifier and the paths of its executable. -/
structure KextInfo where
  identifier : String
  paths : List String
  reloadable : Bool
  detect : Bool

/-- The kexts by the names that patches use. Their order fixes the index of each. -/
structure KextTable where
  entries : List (Scalar × KextInfo)
  distinct : Plist.Dictionary.Distinct entries

namespace KextTable

/-- The table of a list of pairs; a name that is given twice is refused. -/
def ofPairs? (pairs : List (Scalar × KextInfo)) : Except Scalar KextTable :=
  if h : Plist.Dictionary.Distinct pairs then .ok ⟨pairs, h⟩
  else .error ((Plist.Dictionary.repeated? pairs).getD .null)

/-- The table of a dictionary, in its order. -/
def ofDictionary (pairs : List (Scalar × KextInfo)) : KextTable :=
  ⟨Plist.Dictionary.ofPairs pairs, Plist.Dictionary.distinct_ofPairs pairs⟩

/-- The kext of a name. -/
def find? (table : KextTable) (name : String) : Option KextInfo :=
  Plist.Dictionary.find? table.entries name

/-- What is said of a kext that is declared twice. -/
def repeatedMessage (name : Scalar) : String := "duplicate kext " ++ name.shown

end KextTable

/-- A patch of an executable. A kernel bound of zero stands for none. -/
structure Patch where
  find : List UInt8
  replace : List UInt8
  count : Int
  executable : String
  minKernel : Int
  maxKernel : Int
  sizes : find.length = replace.length

/-- The number of bytes that a patch changes. -/
def Patch.size (p : Patch) : Nat := p.find.length

/-- A file of a codec, by its path in the bundle. -/
structure CodecFile where
  id : Int
  path : String
  minKernel : Int
  maxKernel : Int

/-- The files of a codec, by their use. -/
structure CodecFiles where
  layouts : List CodecFile
  platforms : List CodecFile

/-- The description of a codec. -/
structure CodecInfo where
  vendor : Vendor
  codecName : String
  id : Int
  files : CodecFiles
  patches : List Patch
  revisions : List Int

/-- A codec bundle: its directory and its description. -/
structure CodecBundle where
  info : CodecInfo
  path : Path

/-- A vendor with its bundles. -/
structure VendorGroup where
  vendor : Vendor
  bundles : List CodecBundle

namespace VendorGroup

/-- Adds a bundle to the group of its vendor, or to a new group after all others. -/
def add (groups : List VendorGroup) (bundle : CodecBundle) : List VendorGroup :=
  match groups with
  | [] => [⟨bundle.info.vendor, [bundle]⟩]
  | group :: rest =>
    if group.vendor = bundle.info.vendor then
      { group with bundles := group.bundles ++ [bundle] } :: rest
    else group :: add rest bundle

/-- The bundles of each vendor, in the order of their first bundles. -/
def group (bundles : List CodecBundle) : List VendorGroup := bundles.foldl add []

end VendorGroup

/-- A controller and what is patched for it. -/
structure Controller where
  device : Int
  description : String
  vendor : Vendor
  patches : List Patch
  revisions : List Int
  model : ComputerModel
  platform : Int

/-- Everything that is compiled by a rule of its own. -/
inductive Entity where
  | lookupTable (entries : List LookupEntry)
  | lookupEntry (entry : LookupEntry)
  | kextTable (table : KextTable)
  | kextInfo (info : KextInfo)
  | vendorGroups (groups : List VendorGroup)
  | vendorGroup (group : VendorGroup)
  | codecBundle (bundle : CodecBundle)
  | codecInfo (info : CodecInfo)
  | codecFiles (files : CodecFiles)
  | codecFile (file : CodecFile)
  | controllerTable (entries : List Controller)
  | controller (entry : Controller)
  | patches (patches : List Patch)
  | patch (patch : Patch)
  | revisions (codes : List Int)

/-- The name of the rule that compiles an entity. -/
def Entity.rule : Entity → String
  | lookupTable _ => "codec_lookup_table"
  | lookupEntry _ => "codec_lookup_entry"
  | kextTable _ => "kext_table"
  | kextInfo _ => "kext_info"
  | vendorGroups _ => "vendor_bundles"
  | vendorGroup _ => "codec_bundles"
  | codecBundle _ => "codec_bundle"
  | codecInfo _ => "codec_info"
  | codecFiles _ => "codec_files"
  | codecFile _ => "codec_file"
  | controllerTable _ => "controller_table"
  | controller _ => "controller_entry"
  | patches _ => "binary_patches"
  | patch _ => "binary_patch"
  | revisions _ => "revisions"

/-- The entities whose rules serve an entity and its parts. A description is served as the only
bundle of its vendor. -/
def Entity.served : Entity → List Entity
  | lookupTable entries => lookupTable entries :: entries.map lookupEntry
  | kextTable table => kextTable table :: table.entries.map fun entry => kextInfo entry.2
  | controllerTable entries => controllerTable entries :: entries.map controller
  | patches list => patches list :: list.map patch
  | codecInfo info =>
    let bundle : CodecBundle := ⟨info, .here⟩
    let groups := VendorGroup.group [bundle]
    vendorGroups groups :: groups.map vendorGroup ++
      [codecBundle bundle, codecInfo info, codecFiles info.files] ++
      info.files.layouts.map codecFile ++ patches info.patches :: info.patches.map patch ++
      [revisions info.revisions]
  | other => [other]

end CodecTables.Resource
