import CodecTables.Proofs.Decode.Fields
import CodecTables.Proofs.Text.Numeral

/-!
# The schema of the property lists

What a property list has to hold, key by key, to describe a resource: each structure here lists the
fields of one kind of record, with the defaults of those that may be absent. A decoder takes a value
if and only if it is described like that, and gives the resource of the description
(`lookupTable_eq_ok`, `kextTable_eq_ok`, `controllerTable_eq_ok`, `codecInfo_eq_ok`). A kext whose
name has no text cannot be spoken of, and is the only thing that is refused with another failure
than a fault of loading.
-/

namespace CodecTables

open Plist (Scalar Value)

namespace Decode

open Resource

variable {α : Type}

/-! ### Records -/

/-- The value is a record with the fields that the content calls for. -/
def IsRecord (Fields : Record → α → Prop) (value : Value) (content : α) : Prop :=
  ∃ entry, value = .dict entry ∧ Fields entry content

/-- The value is an array of values, which describe the contents one by one. -/
def IsArray (Describes : Value → α → Prop) (value : Value) (contents : List α) : Prop :=
  ∃ values, value = .array values ∧ List.Forall₂ Describes values contents

/-- The record gives a key an array of records for the contents; or it lacks the key, and there are
no contents. -/
def GivesRecords (entry : Record) (key : String) (Fields : Record → α → Prop)
    (contents : List α) : Prop :=
  ∃ values, GivesOr entry key Value.array [] values ∧
    List.Forall₂ (IsRecord Fields) values contents

/-- What a record says of an entry of the lookup table. -/
structure LookupFields (entry : Record) (content : LookupEntry) : Prop where
  tree : Gives entry "Tree" (.array (content.tree.map Value.string))
  controllerCount : Gives entry "controllerNum" (.int content.controllerCount)
  detect : GivesOr entry "Detect" Value.bool false content.detect
  comment : GivesOr entry "Comment" Value.string "N/A" content.comment

/-- What a record says of a kext. -/
structure KextFields (entry : Record) (content : KextInfo) : Prop where
  identifier : Gives entry "Id" (.string content.identifier)
  paths : Gives entry "Paths" (.array (content.paths.map Value.string))
  reloadable : GivesOr entry "Reloadable" Value.bool false content.reloadable
  detect : GivesOr entry "Detect" Value.bool false content.detect

/-- The fields of a patch, whose buffers have one length (`Patch.sizes`). -/
structure PatchFields (entry : Record) (content : Patch) : Prop where
  find : Gives entry "Find" (.data content.find)
  replace : Gives entry "Replace" (.data content.replace)
  count : Gives entry "Count" (.int content.count)
  executable : Gives entry "Name" (.string content.executable)
  minKernel : GivesOr entry "MinKernel" Value.int 0 content.minKernel
  maxKernel : GivesOr entry "MaxKernel" Value.int 0 content.maxKernel

/-- What a record says of a file of a codec. -/
structure FileFields (entry : Record) (content : CodecFile) : Prop where
  id : Gives entry "Id" (.int content.id)
  path : Gives entry "Path" (.string content.path)
  minKernel : GivesOr entry "MinKernel" Value.int 0 content.minKernel
  maxKernel : GivesOr entry "MaxKernel" Value.int 0 content.maxKernel

/-- The value of an array of integers. -/
def codes (list : List Int) : Value := .array (list.map Value.int)

/-- What a record says of a controller. -/
structure ControllerFields (entry : Record) (content : Controller) : Prop where
  device : Gives entry "Device" (.int content.device)
  description : Gives entry "Name" (.string content.description)
  vendor : Gives entry "Vendor" (.string content.vendor.label)
  patches : GivesRecords entry "Patches" PatchFields content.patches
  revisions : GivesOr entry "Revisions" codes [] content.revisions
  model : GivesOr entry "Model" (fun model => .string model.label) .any content.model
  platform : GivesOr entry "Platform" Value.int 0 content.platform

/-- What a record says of the files of a codec. -/
structure FilesFields (entry : Record) (content : CodecFiles) : Prop where
  layouts : GivesRecords entry "Layouts" FileFields content.layouts
  platforms : GivesRecords entry "Platforms" FileFields content.platforms

/-- What a record says of a codec. -/
structure InfoFields (entry : Record) (content : CodecInfo) : Prop where
  vendor : Gives entry "Vendor" (.string content.vendor.label)
  codecName : Gives entry "CodecName" (.string content.codecName)
  id : Gives entry "CodecID" (.int content.id)
  files : ∃ files, Gives entry "Files" (.dict files) ∧ FilesFields files content.files
  patches : GivesRecords entry "Patches" PatchFields content.patches
  revisions : GivesOr entry "Revisions" codes [] content.revisions

/-- The value is a dictionary of kexts by their names, in the order of the table. -/
def IsKexts (value : Value) (table : KextTable) : Prop :=
  ∃ entries, value = .dict entries ∧
    List.Forall₂ (fun entry kext => kext.1 = entry.1 ∧ IsRecord KextFields entry.2 kext.2)
      entries table.entries

/-! ### Labels -/

/-- A label is read as a vendor when it is the label of that vendor. -/
theorem vendor_eq_ok {label site : String} {v : Vendor} :
    vendor label site = .ok v ↔ label = v.label := by
  unfold vendor
  have found : Vendor.ofLabel? label = some v ↔ label = v.label := by
    constructor
    · intro found
      have sought : Vendor.all.find? (fun vendor => vendor.label == label) = some v := found
      have labelled := List.find?_some sought
      exact (beq_iff_eq.mp labelled).symm
    · rintro rfl
      cases v <;> rfl
  rw [← found]
  cases Vendor.ofLabel? label <;> simp

/-- A label is read as a computer model when it is the label of that model. -/
theorem model_eq_ok {label site : String} {m : ComputerModel} :
    model label site = .ok m ↔ label = m.label := by
  unfold model
  have found : ComputerModel.ofLabel? label = some m ↔ label = m.label := by
    constructor
    · intro found
      have sought : ComputerModel.all.find? (fun model => model.label == label) = some m := found
      have labelled := List.find?_some sought
      exact (beq_iff_eq.mp labelled).symm
    · rintro rfl
      cases m <;> rfl
  rw [← found]
  cases ComputerModel.ofLabel? label <;> simp

theorem ComputerModel.label_inj {m n : ComputerModel} : m.label = n.label ↔ m = n := by
  cases m <;> cases n <;> decide

/-! ### What is taken -/

section Taken

variable (value : Value) (site : String)

/-- An entry of the lookup table is decoded when the schema describes it. -/
theorem lookupEntry_eq_ok (content : LookupEntry) :
    lookupEntry value site = .ok content ↔ IsRecord LookupFields value content := by
  unfold lookupEntry
  simp only [bind_eq_ok, pure_eq_ok, record_eq_ok, required_eq_ok Shape.writes_array,
    required_eq_ok Shape.writes_int, each_eq_ok Shape.writes_string,
    optional_eq_ok Shape.writes_bool, optional_eq_ok Shape.writes_string]
  constructor
  · rintro ⟨entry, rfl, _, tree, tree', rfl, count, count', detect, detect', comment, comment', rfl⟩
    exact ⟨entry, rfl, tree, count', detect', comment'⟩
  · rintro ⟨entry, rfl, tree, count, detect, comment⟩
    exact ⟨entry, rfl, _, tree, _, rfl, _, count, _, detect, _, comment, rfl⟩

/-- A lookup table is decoded when the schema describes each of its entries. -/
theorem lookupTable_eq_ok (contents : List LookupEntry) :
    lookupTable value = .ok contents ↔ IsArray (IsRecord LookupFields) value contents := by
  have entries (values : List Value) : indexed lookupEntry "CodecLookup" 0 values = .ok contents ↔
      List.Forall₂ (IsRecord LookupFields) values contents :=
    indexed_eq_ok lookupEntry_eq_ok
  unfold lookupTable
  simp only [bind_eq_ok, items_eq_ok, entries]
  rfl

/-- A kext is decoded when the schema describes it. -/
theorem kextInfo_eq_ok (content : KextInfo) :
    kextInfo value site = .ok content ↔ IsRecord KextFields value content := by
  unfold kextInfo
  simp only [bind_eq_ok, pure_eq_ok, record_eq_ok, required_eq_ok Shape.writes_array,
    required_eq_ok Shape.writes_string, each_eq_ok Shape.writes_string,
    optional_eq_ok Shape.writes_bool]
  constructor
  · rintro ⟨entry, rfl, _, paths, id, id', paths', rfl, load, load', detect, detect', rfl⟩
    exact ⟨entry, rfl, id', paths, load', detect'⟩
  · rintro ⟨entry, rfl, id, paths, load, detect⟩
    exact ⟨entry, rfl, _, paths, _, id, _, rfl, _, load, _, detect, rfl⟩

/-- A patch is decoded when the schema describes it, with two sides of one length. -/
theorem patch_eq_ok (content : Patch) :
    patch value site = .ok content ↔ IsRecord PatchFields value content := by
  unfold patch
  simp only [bind_eq_ok, record_eq_ok, required_eq_ok Shape.writes_data,
    required_eq_ok Shape.writes_string, required_eq_ok Shape.writes_int,
    optional_eq_ok Shape.writes_int]
  constructor
  · rintro ⟨entry, rfl, find, find', replace, replace', count, count', name, name', low, low', high,
      high', made⟩
    split at made
    · cases made
      exact ⟨entry, rfl, find', replace', count', name', low', high'⟩
    · cases made
  · rintro ⟨entry, rfl, find, replace, count, name, low, high⟩
    refine ⟨entry, rfl, _, find, _, replace, _, count, _, name, _, low, _, high, ?_⟩
    rw [dif_pos content.sizes]
    rfl

/-- A file of a codec is decoded when the schema describes it. -/
theorem codecFile_eq_ok (content : CodecFile) :
    codecFile value site = .ok content ↔ IsRecord FileFields value content := by
  unfold codecFile
  simp only [bind_eq_ok, pure_eq_ok, record_eq_ok, required_eq_ok Shape.writes_int,
    required_eq_ok Shape.writes_string, optional_eq_ok Shape.writes_int]
  constructor
  · rintro ⟨entry, rfl, id, id', path, path', low, low', high, high', rfl⟩
    exact ⟨entry, rfl, id', path', low', high'⟩
  · rintro ⟨entry, rfl, id, path, low, high⟩
    exact ⟨entry, rfl, _, id, _, path, _, low, _, high, rfl⟩

/-- Files of a codec are decoded when the schema describes each of them. -/
theorem codecFiles_eq_ok {index : Nat} {values : List Value} {contents : List CodecFile} :
    indexed codecFile site index values = .ok contents ↔
      List.Forall₂ (IsRecord FileFields) values contents :=
  indexed_eq_ok codecFile_eq_ok

/-- The patches of a record are decoded when the schema describes them. -/
theorem patchField_eq_ok {entry : Record} {inner : String} {contents : List Patch} :
    patchField entry site inner = .ok contents ↔
      GivesRecords entry "Patches" PatchFields contents := by
  have patches (values : List Value) : indexed patch inner 0 values = .ok contents ↔
      List.Forall₂ (IsRecord PatchFields) values contents :=
    indexed_eq_ok patch_eq_ok
  unfold patchField
  simp only [bind_eq_ok, optional_eq_ok Shape.writes_array, patches]
  rfl

/-- The revisions of a record are decoded when they are an array of integers or missing. -/
theorem revisions_eq_ok {entry : Record} {list : List Int} :
    revisions entry site = .ok list ↔ GivesOr entry "Revisions" codes [] list := by
  unfold revisions
  simp only [bind_eq_ok, optional_eq_ok Shape.writes_array, each_eq_ok Shape.writes_int,
    exists_eq_right, GivesOr, List.map_eq_nil_iff]
  rfl

/-- A controller is decoded when the schema describes it. -/
theorem controller_eq_ok (content : Controller) :
    controller value site = .ok content ↔ IsRecord ControllerFields value content := by
  unfold controller
  simp only [bind_eq_ok, pure_eq_ok, record_eq_ok, required_eq_ok Shape.writes_int,
    required_eq_ok Shape.writes_string, optional_eq_ok Shape.writes_string,
    optional_eq_ok Shape.writes_int, vendor_eq_ok, model_eq_ok, patchField_eq_ok, revisions_eq_ok]
  constructor
  · rintro ⟨entry, rfl, _, vendor, _, model, device, device', name, name', _, rfl, patches,
      patches', revisions, revisions', _, rfl, platform, platform', rfl⟩
    refine ⟨entry, rfl, device', name', vendor, patches', revisions', ?_, platform'⟩
    simpa only [GivesOr, ComputerModel.label_inj] using model
  · rintro ⟨entry, rfl, device, name, vendor, patches, revisions, model, platform⟩
    refine ⟨entry, rfl, _, vendor, content.model.label, ?_, _, device, _, name, _, rfl, _, patches,
      _, revisions, _, rfl, _, platform, rfl⟩
    simpa only [GivesOr, ComputerModel.label_inj] using model

/-- A table of controllers is decoded when the schema describes each of them. -/
theorem controllerTable_eq_ok (contents : List Controller) :
    controllerTable value = .ok contents ↔ IsArray (IsRecord ControllerFields) value contents := by
  have entries (values : List Value) : indexed controller "Controllers" 0 values = .ok contents ↔
      List.Forall₂ (IsRecord ControllerFields) values contents :=
    indexed_eq_ok controller_eq_ok
  unfold controllerTable
  simp only [bind_eq_ok, items_eq_ok, entries]
  rfl

/-- A codec is decoded when the schema describes it. -/
theorem codecInfo_eq_ok (content : CodecInfo) :
    codecInfo value = .ok content ↔ IsRecord InfoFields value content := by
  unfold codecInfo
  simp only [bind_eq_ok, pure_eq_ok, record_eq_ok, required_eq_ok Shape.writes_dict,
    required_eq_ok Shape.writes_string, required_eq_ok Shape.writes_int,
    optional_eq_ok Shape.writes_array, vendor_eq_ok, patchField_eq_ok, revisions_eq_ok,
    codecFiles_eq_ok]
  constructor
  · rintro ⟨entry, rfl, files, files', _, layouts, _, platforms, _, vendor, _, rfl, name, name', id,
      id', _, layouts', _, platforms', patches, patches', revisions, revisions', rfl⟩
    exact ⟨entry, rfl, vendor, name', id', ⟨files, files', ⟨_, layouts, layouts'⟩,
      ⟨_, platforms, platforms'⟩⟩, patches', revisions'⟩
  · rintro ⟨entry, rfl, vendor, name, id, ⟨files, files', ⟨_, layouts, layouts'⟩,
      ⟨_, platforms, platforms'⟩⟩, patches, revisions⟩
    exact ⟨entry, rfl, files, files', _, layouts, _, platforms, _, vendor, _, rfl, _, name, _, id,
      _, layouts', _, platforms', _, patches, _, revisions, rfl⟩

end Taken

/-! ### Names of kexts -/

/-- A name has a text: an integer among them has not too many digits. -/
def HasText (name : Scalar) : Prop := ∀ n, name = .int n → Text.hasDecimal n = true

theorem kextSite_of_hasText {name : Scalar} (speaks : HasText name) :
    ∃ text, kextSite name = .ok ("Kexts[" ++ text ++ "]") := by
  unfold kextSite Scalar.shown?
  cases name with
  | int n =>
    refine ⟨Text.decimal n, ?_⟩
    dsimp only
    rw [Text.decimal?, if_pos (speaks n rfl)]
  | _ => exact ⟨_, rfl⟩

/-- A name without a text is refused for its digits. -/
theorem kextSite_of_not_hasText {name : Scalar} (mute : ¬ HasText name) :
    kextSite name = .error (.unspeakable .digits) := by
  obtain ⟨n, rfl, long⟩ : ∃ n, name = .int n ∧ ¬ Text.hasDecimal n = true := by
    simpa only [HasText, not_forall, exists_prop] using mute
  unfold kextSite Scalar.shown? Text.decimal?
  dsimp only
  rw [if_neg long]

theorem not_hasText_of_le {n : Int} (long : 10 ^ Text.maxDigits ≤ n.natAbs) :
    ¬ HasText (.int n) :=
  fun speaks => absurd ((Text.hasDecimal_iff n).mp (speaks n rfl)) (Nat.not_lt.mpr long)

theorem hasText_of_kextSite {name : Scalar} {site : String} (named : kextSite name = .ok site) :
    HasText name := by
  by_contra mute
  rw [kextSite_of_not_hasText mute] at named
  cases named

/-- A kext is taken under its name, if the name has a text. -/
theorem kext_eq_ok {entry : Scalar × Value} {named : Scalar × KextInfo} :
    kext entry = .ok named ↔
      HasText entry.1 ∧ named.1 = entry.1 ∧ IsRecord KextFields entry.2 named.2 := by
  unfold kext
  simp only [bind_eq_ok, pure_eq_ok, kextInfo_eq_ok]
  constructor
  · rintro ⟨site, known, info, described, rfl⟩
    exact ⟨hasText_of_kextSite known, rfl, described⟩
  · rintro ⟨speaks, same, described⟩
    obtain ⟨text, known⟩ := kextSite_of_hasText speaks
    exact ⟨_, known, _, described, Prod.ext same.symm rfl⟩

/-- The value is no dictionary, or one that holds each key once, as every dictionary does. -/
def KeysDistinct (value : Value) : Prop :=
  ∀ entries, value = .dict entries → Plist.Dictionary.Distinct entries

/-- All keys of the value, if it is a dictionary, have texts. -/
def KeysHaveText (value : Value) : Prop :=
  ∀ entries, value = .dict entries → ∀ entry ∈ entries, HasText entry.1

/-- Kexts that are read from a dictionary have distinct names. -/
theorem distinct_of_forall₂ {entries : List (Scalar × Value)} {kexts : List (Scalar × KextInfo)}
    {Describes : Value → KextInfo → Prop}
    (read : List.Forall₂ (fun entry kext => kext.1 = entry.1 ∧ Describes entry.2 kext.2)
      entries kexts)
    (distinct : Plist.Dictionary.Distinct entries) : Plist.Dictionary.Distinct kexts := by
  have names : kexts.map Prod.fst = entries.map Prod.fst := by
    induction read with
    | nil => rfl
    | cons first _ ih =>
      rw [List.map_cons, List.map_cons, first.1, ih (List.Pairwise.of_cons distinct)]
  unfold Plist.Dictionary.Distinct
  rwa [names]

/-- Kexts are decoded when their names have texts and the schema describes each of them. -/
theorem kexts_eq_ok {entries : Record} {kexts : List (Scalar × KextInfo)} :
    entries.mapM kext = .ok kexts ↔
      (∀ entry ∈ entries, HasText entry.1) ∧
        List.Forall₂ (fun entry kext => kext.1 = entry.1 ∧ IsRecord KextFields entry.2 kext.2)
          entries kexts := by
  simp only [mapM_eq_ok, kext_eq_ok, List.forall₂_and_left]

/-- A kext table is taken from a dictionary of kexts, all of whose names have texts. -/
theorem kextTable_eq_ok {value : Value} (distinct : KeysDistinct value) {table : KextTable} :
    kextTable value = .ok table ↔ KeysHaveText value ∧ IsKexts value table := by
  unfold kextTable
  simp only [bind_eq_ok, record_eq_ok, kexts_eq_ok]
  constructor
  · rintro ⟨entries, rfl, kexts, ⟨speak, read⟩, made⟩
    have apart := distinct_of_forall₂ read (distinct entries rfl)
    rw [KextTable.ofPairs?, dif_pos apart] at made
    cases made
    refine ⟨?_, entries, rfl, read⟩
    rintro others same
    cases same
    exact speak
  · rintro ⟨speak, entries, rfl, read⟩
    refine ⟨entries, rfl, table.entries, ⟨speak entries rfl, read⟩, ?_⟩
    rw [KextTable.ofPairs?, dif_pos table.distinct]
    rfl

/-! ### What is refused -/

section Refused

variable (value : Value) (site : String)

theorem faults_lookupEntry : Faults (lookupEntry value site) :=
  (faults_record value).bind fun _ => faults_required.bind fun tree =>
    (faults_each tree).bind fun _ => faults_required.bind fun _ =>
      faults_optional.bind fun _ => faults_optional.bind fun _ => faults_ok _

theorem faults_lookupTable : Faults (lookupTable value) :=
  (faults_items value).bind fun values => faults_indexed faults_lookupEntry 0 values

theorem faults_kextInfo : Faults (kextInfo value site) :=
  (faults_record value).bind fun _ => faults_required.bind fun paths =>
    faults_required.bind fun _ => (faults_each paths).bind fun _ =>
      faults_optional.bind fun _ => faults_optional.bind fun _ => faults_ok _

/-- An unequal patch is refused with a fault of its own kind, which is one of loading. -/
theorem faults_patch : Faults (patch value site) := by
  refine (faults_record value).bind fun _ => faults_required.bind fun find =>
    faults_required.bind fun replace => faults_required.bind fun _ => faults_required.bind fun _ =>
      faults_optional.bind fun _ => faults_optional.bind fun _ => ?_
  split
  · exact faults_ok _
  · exact faults_error ⟨_, rfl, rfl⟩

theorem faults_codecFile : Faults (codecFile value site) :=
  (faults_record value).bind fun _ => faults_required.bind fun _ => faults_required.bind fun _ =>
    faults_optional.bind fun _ => faults_optional.bind fun _ => faults_ok _

theorem faults_vendor (label : String) : Faults (vendor label site) := by
  unfold vendor
  split
  · exact faults_ok _
  · exact faults_error ⟨_, rfl, rfl⟩

theorem faults_model (label : String) : Faults (model label site) := by
  unfold model
  split
  · exact faults_ok _
  · exact faults_error ⟨_, rfl, rfl⟩

/-- The patches of a record are refused with faults only. -/
theorem faults_patchField (entry : Record) (inner : String) :
    Faults (patchField entry site inner) :=
  faults_optional.bind fun values => faults_indexed faults_patch 0 values

theorem faults_revisions (entry : Record) : Faults (revisions entry site) :=
  faults_optional.bind fun values => faults_each values

theorem faults_controller : Faults (controller value site) :=
  (faults_record value).bind fun entry => faults_required.bind fun vendorLabel =>
    faults_optional.bind fun modelLabel => faults_required.bind fun _ =>
      faults_required.bind fun _ => (faults_vendor site vendorLabel).bind fun _ =>
        (faults_patchField site entry _).bind fun _ => (faults_revisions site entry).bind fun _ =>
          (faults_model site modelLabel).bind fun _ => faults_optional.bind fun _ => faults_ok _

/-- A table of controllers is refused with faults only. -/
theorem faults_controllerTable : Faults (controllerTable value) :=
  (faults_items value).bind fun values => faults_indexed faults_controller 0 values

/-- The description of a codec is refused with faults only. -/
theorem faults_codecInfo : Faults (codecInfo value) :=
  (faults_record value).bind fun entry => faults_required.bind fun _ =>
    faults_optional.bind fun layouts => faults_optional.bind fun platforms =>
      faults_required.bind fun label => (faults_vendor "Info" label).bind fun _ =>
        faults_required.bind fun _ => faults_required.bind fun _ =>
          (faults_indexed faults_codecFile 0 layouts).bind fun _ =>
            (faults_indexed faults_codecFile 0 platforms).bind fun _ =>
              (faults_patchField "Info" entry _).bind fun _ =>
                (faults_revisions "Info" entry).bind fun _ => faults_ok _

variable {value}

/-- A kext whose name has a text is refused with faults only. -/
theorem faults_kext {entry : Scalar × Value} (speaks : HasText entry.1) : Faults (kext entry) := by
  obtain ⟨text, known⟩ := kextSite_of_hasText speaks
  unfold kext
  rw [known]
  exact (faults_kextInfo entry.2 _).bind fun _ => faults_ok _

/-- Where all names of kexts have texts, nothing but faults of loading keeps a kext table from being
taken; its names are never found to repeat. -/
theorem faults_kextTable (distinct : KeysDistinct value) (speak : KeysHaveText value) :
    Faults (kextTable value) := by
  cases value with
  | scalar s => exact faults_error ⟨_, rfl, rfl⟩
  | array items => exact faults_error ⟨_, rfl, rfl⟩
  | dict entries =>
    have each : Faults (entries.mapM kext) :=
      Faults.mapM fun entry member => faults_kext (speak entries rfl entry member)
    unfold kextTable
    change Faults (entries.mapM kext >>= _)
    cases read : entries.mapM kext with
    | error refusal => exact faults_error (each refusal read)
    | ok kexts =>
      have apart := distinct_of_forall₂ (kexts_eq_ok.mp read).2 (distinct entries rfl)
      have made : KextTable.ofPairs? kexts = .ok ⟨kexts, apart⟩ := dif_pos apart
      change Faults (pure kexts >>= _)
      rw [pure_bind, made]
      exact faults_ok _

/-- A kext is refused with a fault, or its name has too many digits. -/
theorem kext_refused {entry : Scalar × Value} {refusal : Refusal}
    (refused : kext entry = .error refusal) :
    refusal.IsFault ∨ refusal = .unspeakable .digits ∧ ¬ HasText entry.1 := by
  by_cases speaks : HasText entry.1
  · exact .inl (faults_kext speaks refusal refused)
  · refine .inr ⟨?_, speaks⟩
    unfold kext at refused
    rw [kextSite_of_not_hasText speaks] at refused
    cases refused
    rfl

/-- A first name without a text keeps a kext table from being taken, whatever else is there. -/
theorem kextTable_of_mute {entry : Scalar × Value} (mute : ¬ HasText entry.1) (rest : Record) :
    kextTable (.dict (entry :: rest)) = .error (.unspeakable .digits) := by
  unfold kextTable
  dsimp only [record, bind, Except.bind]
  rw [List.mapM_cons, kext, kextSite_of_not_hasText mute]
  rfl

/-- A kext table is refused with a fault, or one of its names has too many digits. -/
theorem kextTable_refused {value : Value} (distinct : KeysDistinct value) {refusal : Refusal}
    (refused : kextTable value = .error refusal) :
    refusal.IsFault ∨ refusal = .unspeakable .digits ∧ ¬ KeysHaveText value := by
  by_cases speak : KeysHaveText value
  · exact .inl (faults_kextTable distinct speak refusal refused)
  · obtain ⟨entries, rfl, mute⟩ : ∃ entries, value = .dict entries ∧
        ¬ ∀ entry ∈ entries, HasText entry.1 := by
      simpa only [KeysHaveText, not_forall, exists_prop] using speak
    rcases read : entries.mapM kext with reason | kexts
    · have same : kextTable (.dict entries) = .error reason := by
        unfold kextTable
        dsimp only [record, bind, Except.bind]
        rw [read]
      cases same.symm.trans refused
      obtain ⟨entry, member, failed⟩ := exists_of_mapM_error read
      exact (kext_refused failed).imp_right fun long => ⟨long.1, speak⟩
    · exact absurd (kexts_eq_ok.mp read).1 mute

end Refused

end Decode

end CodecTables
