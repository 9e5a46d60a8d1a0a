import CodecTables.Resource.Entity
import CodecTables.Files.Tree

/-!
# The bytes of resources

The byte strings of an entity, in their order: the two buffers of each patch and the content of each
codec file that can be read. Codec files are looked for in the directory of a bundle.
-/

namespace CodecTables.Resource

open Files (Path Tree)

/-- The rows of bytes that a patch needs: its two sides. -/
def Patch.bytes (p : Patch) : List (List UInt8) := [p.find, p.replace]

/-- A patch that puts one byte in its own place. -/
def Patch.idle (executable : String) : Patch where
  find := [0]
  replace := [0]
  count := 1
  executable := executable
  minKernel := 0
  maxKernel := 0
  sizes := rfl

/-- A file that cannot be read has none. -/
def CodecFile.bytes (files : Tree) (directory : Path) (file : CodecFile) : List (List UInt8) :=
  (files.read (directory.join (.ofString file.path))).toOption.toList

/-- The rows of bytes that the files of a codec need. -/
def CodecFiles.bytes (files : Tree) (directory : Path) (codec : CodecFiles) :
    List (List UInt8) :=
  codec.layouts.flatMap (·.bytes files directory) ++
    codec.platforms.flatMap (·.bytes files directory)

/-- The rows of bytes that a codec needs, in the order in which they are asked for. -/
def CodecInfo.bytes (files : Tree) (directory : Path) (info : CodecInfo) : List (List UInt8) :=
  info.files.bytes files directory ++ info.patches.flatMap Patch.bytes

/-- The rows of bytes that a bundle needs. -/
def CodecBundle.bytes (files : Tree) (bundle : CodecBundle) : List (List UInt8) :=
  bundle.info.bytes files bundle.path

/-- The rows of bytes that the bundles of a vendor need. -/
def VendorGroup.bytes (files : Tree) (group : VendorGroup) : List (List UInt8) :=
  group.bundles.flatMap (·.bytes files)

/-- The rows of bytes that a controller needs. -/
def Controller.bytes (entry : Controller) : List (List UInt8) :=
  entry.patches.flatMap Patch.bytes

/-- The byte strings of an entity, where files without a bundle are looked for in the given
directory. -/
def Entity.bytes (files : Tree) (directory : Path) : Entity → List (List UInt8)
  | vendorGroups groups => groups.flatMap (·.bytes files)
  | vendorGroup group => group.bytes files
  | codecBundle bundle => bundle.bytes files
  | codecInfo info => info.bytes files directory
  | codecFiles codec => codec.bytes files directory
  | codecFile file => file.bytes files directory
  | controllerTable entries => entries.flatMap Controller.bytes
  | controller entry => entry.bytes
  | patches list => list.flatMap Patch.bytes
  | patch p => p.bytes
  | lookupTable _ | lookupEntry _ | kextTable _ | kextInfo _ | revisions _ => []

/-- The bundles of an entity. -/
def Entity.bundles : Entity → List CodecBundle
  | vendorGroups groups => groups.flatMap VendorGroup.bundles
  | vendorGroup group => group.bundles
  | codecBundle bundle => [bundle]
  | _ => []

/-- The directory after an entity: that of its last bundle, if it has one. -/
def Entity.directory (before : Path) (entity : Entity) : Path :=
  entity.bundles.foldl (fun _ bundle => bundle.path) before

end CodecTables.Resource
