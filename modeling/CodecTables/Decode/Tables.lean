import CodecTables.Decode.Field
import CodecTables.Resource.Entity

/-!
# Decoding

The resources that property lists describe. Every decoder reads the fields of a record in a fixed
order and reports the first that it refuses.
-/

namespace CodecTables.Decode

open Plist (Scalar Value)
open Resource

/-- The comment of an entry that has none. -/
def noComment : String := "N/A"

/-- Decodes an entry of the codec lookup table. -/
def lookupEntry (value : Value) (site : String) : Except Refusal LookupEntry := do
  let entry ← record value site
  let tree ← required entry .array "Tree" site
  let tree ← each .string tree "Tree" site
  let controllerCount ← required entry .int "controllerNum" site
  let detect ← optional entry .bool "Detect" site false
  let comment ← optional entry .string "Comment" site noComment
  return ⟨tree, controllerCount, detect, comment⟩

/-- Decodes the codec lookup table. -/
def lookupTable (value : Value) : Except Refusal (List LookupEntry) := do
  indexed lookupEntry "CodecLookup" 0 (← items value "CodecLookup")

/-- Decodes the description of a kext. -/
def kextInfo (value : Value) (site : String) : Except Refusal KextInfo := do
  let entry ← record value site
  let paths ← required entry .array "Paths" site
  let identifier ← required entry .string "Id" site
  let paths ← each .string paths "Paths" site
  let reloadable ← optional entry .bool "Reloadable" site false
  let detect ← optional entry .bool "Detect" site false
  return ⟨identifier, paths, reloadable, detect⟩

/-- The place of a kext, by its name. -/
def kextSite (name : Scalar) : Except Refusal String :=
  match name.shown? with
  | .ok text => .ok ("Kexts[" ++ text ++ "]")
  | .error e => .error (.unspeakable e)

/-- A kext, under its name. -/
def kext (entry : Scalar × Value) : Except Refusal (Scalar × KextInfo) := do
  let site ← kextSite entry.1
  return (entry.1, ← kextInfo entry.2 site)

/-- The kext table, in the order of its dictionary. -/
def kextTable (value : Value) : Except Refusal KextTable := do
  let entries ← record value "Kexts"
  let kexts ← entries.mapM kext
  match KextTable.ofPairs? kexts with
  | .ok table => return table
  | .error name => throw (.repeatedKext name)

/-- A patch. Its buffers have one length. -/
def patch (value : Value) (site : String) : Except Refusal Patch := do
  let entry ← record value site
  let find ← required entry .data "Find" site
  let replace ← required entry .data "Replace" site
  let count ← required entry .int "Count" site
  let executable ← required entry .string "Name" site
  let minKernel ← optional entry .int "MinKernel" site 0
  let maxKernel ← optional entry .int "MaxKernel" site 0
  if sizes : find.length = replace.length then
    return ⟨find, replace, count, executable, minKernel, maxKernel, sizes⟩
  else throw (.unequalPatch find.length replace.length executable)

/-- Decodes an array of patches. -/
def patches (value : Value) (site : String) : Except Refusal (List Patch) := do
  indexed patch site 0 (← items value site)

/-- The patches of an entry, of which there may be none. -/
def patchField (entry : Record) (site inner : String) : Except Refusal (List Patch) := do
  indexed patch inner 0 (← optional entry .array "Patches" site [])

/-- The revisions of an entry, of which there may be none. -/
def revisions (entry : Record) (site : String) : Except Refusal (List Int) := do
  each .int (← optional entry .array "Revisions" site []) "Revisions" site

/-- The vendor that a label stands for. -/
def vendor (label site : String) : Except Refusal Vendor :=
  match Vendor.ofLabel? label with
  | some vendor => .ok vendor
  | none => .error (.unknownLabel site "Vendor" (Vendor.unknownMessage label))

/-- The computer model that a label stands for. -/
def model (label site : String) : Except Refusal ComputerModel :=
  match ComputerModel.ofLabel? label with
  | some model => .ok model
  | none => .error (.unknownLabel site "Model" (ComputerModel.unknownMessage label))

/-- Decodes an entry of the table of controllers. -/
def controller (value : Value) (site : String) : Except Refusal Controller := do
  let entry ← record value site
  let vendorLabel ← required entry .string "Vendor" site
  let modelLabel ← optional entry .string "Model" site ComputerModel.any.label
  let device ← required entry .int "Device" site
  let description ← required entry .string "Name" site
  let vendor ← vendor vendorLabel site
  let patches ← patchField entry site (site ++ ".Patches")
  let revisions ← revisions entry site
  let model ← model modelLabel site
  let platform ← optional entry .int "Platform" site 0
  return ⟨device, description, vendor, patches, revisions, model, platform⟩

/-- Decodes the table of controllers. -/
def controllerTable (value : Value) : Except Refusal (List Controller) := do
  indexed controller "Controllers" 0 (← items value "Controllers")

/-- Decodes the description of a file of a codec. -/
def codecFile (value : Value) (site : String) : Except Refusal CodecFile := do
  let entry ← record value site
  let id ← required entry .int "Id" site
  let path ← required entry .string "Path" site
  let minKernel ← optional entry .int "MinKernel" site 0
  let maxKernel ← optional entry .int "MaxKernel" site 0
  return ⟨id, path, minKernel, maxKernel⟩

/-- Decodes the description of a codec. -/
def codecInfo (value : Value) : Except Refusal CodecInfo := do
  let site := "Info"
  let entry ← record value site
  let files ← required entry .dict "Files" site
  let layouts ← optional files .array "Layouts" "Files" []
  let platforms ← optional files .array "Platforms" "Files" []
  let vendor ← vendor (← required entry .string "Vendor" site) site
  let codecName ← required entry .string "CodecName" site
  let id ← required entry .int "CodecID" site
  let layouts ← indexed codecFile "Files.Layouts" 0 layouts
  let platforms ← indexed codecFile "Files.Platforms" 0 platforms
  let patches ← patchField entry site "Patches"
  let revisions ← revisions entry site
  return ⟨vendor, codecName, id, ⟨layouts, platforms⟩, patches, revisions⟩

end CodecTables.Decode
