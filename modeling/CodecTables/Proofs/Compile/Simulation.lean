import CodecTables.Proofs.Compile.Follows
import CodecTables.Proofs.Compile.Visits

/-!
# Sharing against fresh arrays

A step that shares arrays of bytes is simulated by the same step that stores bytes in fresh arrays:
from states that follow each other, the second goes through whenever the first does, to states that
follow each other again, with expressions that are alike (`Simulates`). Every rule is simulated if
storing bytes is, and so are the rules of entities that are compiled one after the other
(`simulates_visits`).
-/

namespace CodecTables.Compile

open Data.Sha256 (hexDigest)
open Files (Path Tree)
open Resource
open Source (Node)

variable {α : Type} {among : List UInt8 → Prop} {files : Tree}

/-! ### Steps -/

/-- The second step simulates the runs of the first from states that satisfy `I`, if the bytes that
are stored are among the given ones. -/
def Simulates (among : List UInt8 → Prop) (I : State → Prop) (used : List (List UInt8))
    (step step' : Step α) (alike : State → State → α → α → Prop) : Prop :=
  ∀ ⦃s s' a t⦄, I s → (∀ data ∈ used, among data) → Follows among s s' → Takes step s a t →
    ∃ a' t', Takes step' s' a' t' ∧ Follows among t t' ∧ alike t t' a a'

/-- A step for each element of a list is simulated if each step is. -/
theorem simulates_mapM {I : State → Prop} {used : α → List (List UInt8)}
    {step step' : α → Step Node}
    (stays : ∀ a, Keeps (fun s t => I s → I t) (step a)) (grows : ∀ a, Keeps Extends (step a))
    (grows' : ∀ a, Keeps Extends (step' a))
    (each : ∀ a, Simulates among I (used a) (step a) (step' a) Alike) (as : List α) :
    Simulates among I (as.flatMap used) (as.mapM step) (as.mapM step') fun t t' =>
      List.Forall₂ (Alike t t') := by
  intro s s' bs t inside members follows run
  have steps := takes_mapM.mp run
  clear run
  induction steps generalizing s' with
  | nil s => exact ⟨[], s', takes_mapM.mpr (.nil s'), follows, .nil⟩
  | @cons s u t a b as bs first rest ih =>
    rw [List.flatMap_cons] at members
    obtain ⟨b', u', first', follows, alike⟩ := each a inside
      (fun data member => members data (List.mem_append_left _ member)) follows first
    obtain ⟨bs', t', rest', follows, alikes⟩ := ih ((stays a).of_takes first inside)
      (fun data member => members data (List.mem_append_right _ member)) follows
    -- The first expression is alike in states that the later steps go on to extend.
    have grown : Extends u t :=
      (frame_extends.mapM as fun a _ => grows a).of_takes (takes_mapM.mpr rest)
    have grown' : Extends u' t' := (frame_extends.mapM as fun a _ => grows' a).of_takes rest'
    exact ⟨b' :: bs', t', takes_mapM.mpr (.cons first' (takes_mapM.mp rest')), follows,
      .cons (alike.mono grown grown') alikes⟩

theorem simulates_mapM_nil {step : α → Step Node} (grows : ∀ a, Keeps Extends (step a))
    (each : ∀ a, Simulates among (fun _ => True) [] (step a) (step a) Alike) (as : List α) :
    Simulates among (fun _ => True) [] (as.mapM step) (as.mapM step) fun t t' =>
      List.Forall₂ (Alike t t') := by
  have all := simulates_mapM (fun _ _ _ => trivial) grows grows each as
  rwa [List.flatMap_eq_nil_iff.mpr fun _ _ => rfl] at all

/-- An array of texts is simulated. -/
theorem simulates_stringArray {stem : String} (known : stem ∈ otherStems) (strings : List String) :
    Simulates among (fun _ => True) [] (stringArray stem strings) (stringArray stem strings)
      fun t t' name name' => Alike t t' (.identifier name) (.identifier name') := by
  intro s s' name t _ _ follows run
  obtain ⟨rfl, rfl⟩ := takes_stringArray.mp run
  have texts : List.Forall₂ (Alike s s') (strings.map .string) (strings.map .string) :=
    forall₂_alike_map (fun _ _ => rfl) strings
  exact ⟨_, _, takes_stringArray.mpr ⟨rfl, rfl⟩,
    follows.array known Node.stringType_ne_uint8 true texts, follows.alike_nextName known⟩

/-- An entry of the lookup table is simulated. -/
theorem simulates_lookupEntry (entry : LookupEntry) :
    Simulates among (fun _ => True) [] (lookupEntry entry) (lookupEntry entry) Alike := by
  intro s s' row t inside members follows run
  obtain ⟨tree, stored, rfl⟩ := takes_lookupEntry.mp run
  obtain ⟨tree', t', stored', follows, alike⟩ :=
    simulates_stringArray (by decide) _ inside members follows stored
  refine ⟨_, t', takes_lookupEntry.mpr ⟨tree', stored', rfl⟩, follows, ?_⟩
  intro meaning meaning' explains explains'
  simp [alike explains explains']

theorem simulates_kextInfo (info : KextInfo) :
    Simulates among (fun _ => True) [] (kextInfo info) (kextInfo info) Alike := by
  intro s s' row t inside members follows run
  obtain ⟨paths, stored, rfl⟩ := takes_kextInfo.mp run
  obtain ⟨paths', t', stored', follows, alike⟩ :=
    simulates_stringArray (by decide) _ inside members follows stored
  refine ⟨_, t', takes_kextInfo.mpr ⟨paths', stored', rfl⟩, follows, ?_⟩
  have unloaded : Alike t t' (.identifier "KernelPatcher::KextInfo::Unloaded")
      (.identifier "KernelPatcher::KextInfo::Unloaded") :=
    alike_of_foreign (not_namesBytes_of_isPlain (by decide))
  intro meaning meaning' explains explains'
  simp [alike explains explains', unloaded explains explains']

/-- Revisions are simulated. -/
theorem simulates_revisions (codes : List Int) :
    Simulates among (fun _ => True) [] (revisions codes) (revisions codes) Alike := by
  intro s s' node t _ _ follows run
  rcases takes_revisions.mp run with ⟨empty, rfl, rfl⟩ | ⟨present, rfl, rfl⟩
  · exact ⟨_, s', takes_revisions.mpr (.inl ⟨empty, rfl, rfl⟩), follows,
      alike_of_closed fun _ => rfl⟩
  · have numbers : List.Forall₂ (Alike s s') (codes.map fun code => Source.hexOf code 32)
        (codes.map fun code => Source.hexOf code 32) := forall₂_alike_map (fun _ _ => rfl) codes
    exact ⟨_, _, takes_revisions.mpr (.inr ⟨present, rfl, rfl⟩),
      follows.array (by decide) Node.uint32_ne_uint8 true numbers,
      follows.alike_nextName (by decide)⟩

/-- Tables of rows that are alike are declared on both sides. -/
theorem simulates_declareTable (struct name : String) {rows rows' : List Node} {s s' t : State}
    {u : Unit} (follows : Follows among s s') (each : List.Forall₂ (Alike s s') rows rows')
    (run : Takes (declareTable struct name rows) s u t) :
    ∃ t', Takes (declareTable struct name rows') s' () t' ∧ Follows among t t' := by
  rw [takes_declareTable.mp run]
  exact ⟨_, takes_declareTable.mpr rfl, follows.table struct name each⟩

/-! ### Steps that store bytes -/

section Storage

variable (apart : ∀ data, among data → ∀ data', among data' → hexDigest data = hexDigest data' →
  data = data')

include apart

/-- Shared bytes are simulated by bytes in a fresh array. -/
theorem simulates_buffer {stem : String} (known : stem ∈ byteStems) (data : List UInt8) :
    Simulates among (fun _ => True) [data] (buffer data stem) (freshBuffer data stem)
      fun t t' name name' => Alike t t' (.identifier name) (.identifier name') := by
  intro s s' name t _ members follows run
  have member := members data (List.mem_singleton_self data)
  exact follows.buffer (fun member' same => apart _ member' _ member same) known member run

theorem simulates_patch (p : Patch) :
    Simulates among (fun _ => True) p.bytes (patch buffer p) (patch freshBuffer p) Alike := by
  intro s s' row t inside members follows run
  have member : among p.find := members p.find List.mem_cons_self
  have member' : among p.replace := members p.replace (List.mem_cons_of_mem _ List.mem_cons_self)
  obtain ⟨find, u, replace, place, stored, stored', known, rfl⟩ := takes_patch.mp run
  obtain ⟨find', u', fresh, follows, alike⟩ :=
    simulates_buffer apart (by decide) p.find inside (by simpa using member) follows stored
  obtain ⟨replace', t', fresh', follows, alike'⟩ :=
    simulates_buffer apart (by decide) p.replace inside (by simpa using member') follows stored'
  have known' : Plist.Dictionary.find? t'.kexts p.executable = some place := by
    rw [follows.kexts, known]
  refine ⟨_, t', takes_patch.mpr ⟨find', u', replace', place, fresh, fresh', known', rfl⟩,
    follows, ?_⟩
  have grown := (extends_buffer _ _).of_takes stored'
  have grown' := (extends_freshBuffer _ _).of_takes fresh'
  intro meaning meaning' explains explains'
  have first := alike.mono grown grown' explains explains'
  have second := alike' explains explains'
  have table := follows.alike_kextTable explains explains'
  simp [first, second, table]

theorem simulates_patches (list : List Patch) :
    Simulates among (fun _ => True) (list.flatMap Patch.bytes) (patches buffer list)
      (patches freshBuffer list) Alike := by
  intro s s' node t inside members follows run
  obtain ⟨rows, u, steps, rfl, rfl⟩ := takes_patches.mp run
  obtain ⟨rows', u', steps', follows, alikes⟩ := simulates_mapM (fun _ _ _ => trivial)
    (frame_extends.patch extends_buffer) (frame_extends.patch extends_freshBuffer)
    (simulates_patch apart) list inside members follows steps
  refine ⟨_, _, takes_patches.mpr ⟨rows', u', steps', rfl, rfl⟩, ?_,
    follows.alike_nextName (by decide)⟩
  have known : "patches" ∈ otherStems := by decide
  exact (follows.array known (Node.structType_ne_uint8 _) true alikes).use "KextPatch"

/-- A file is simulated, whether it can be read or not. -/
theorem simulates_codecFile (directory : Path) (file : CodecFile) :
    Simulates among (At directory) (file.bytes files directory) (codecFile buffer files file)
      (codecFile freshBuffer files file) Alike := by
  intro s s' row t inside members follows run
  have here : s.directory = directory := inside
  have here' : s'.directory = s.directory := follows.directory
  unfold CodecFile.bytes at members
  rw [← here] at members
  cases found : files.read (s.directory.join (.ofString file.path)) with
  | ok bytes =>
    obtain ⟨name, stored, rfl⟩ := (takes_codecFile_of_ok found).mp run
    rw [found] at members
    obtain ⟨name', t', fresh, follows, alike⟩ :=
      simulates_buffer apart (by decide) bytes trivial members follows stored
    rw [← here'] at found
    refine ⟨_, t', (takes_codecFile_of_ok found).mpr ⟨name', fresh, rfl⟩, follows, ?_⟩
    intro meaning meaning' explains explains'
    simp [alike explains explains']
  | error problem =>
    obtain ⟨soft, same, rfl⟩ := (takes_codecFile_of_error found).mp run
    rw [← here'] at found
    refine ⟨_, _, (takes_codecFile_of_error found).mpr ⟨soft, rfl, rfl⟩, ?_,
      alike_of_closed fun _ => rfl⟩
    have text : s'.directory.text = s.directory.text := congrArg Path.text here'
    rw [same, text]
    exact follows.warn _

/-- The files of a codec are simulated. -/
theorem simulates_codecFiles (directory : Path) (codec : CodecFiles) :
    Simulates among (At directory) (codec.bytes files directory) (codecFiles buffer files codec)
      (codecFiles freshBuffer files codec) fun t t' arrays arrays' =>
        Alike t t' arrays.1 arrays'.1 ∧ Alike t t' arrays.2 arrays'.2 := by
  intro s s' arrays t inside members follows run
  obtain ⟨layoutRows, u, platformRows, v, laid, platformed, rfl, rfl⟩ := takes_codecFiles.mp run
  have stays : ∀ file, Keeps (fun s t => At directory s → At directory t)
      (codecFile buffer files file) := fun file =>
    at_of_keeps (frame_directory.codecFile directory_buffer files file)
  have here : At directory u :=
    (at_of_keeps (frame_directory.mapM codec.layouts fun file _ =>
      frame_directory.codecFile directory_buffer files file)).of_takes laid inside
  have all := simulates_mapM stays (frame_extends.codecFile extends_buffer files)
    (frame_extends.codecFile extends_freshBuffer files) (simulates_codecFile apart directory)
  obtain ⟨layoutRows', u', laid', follows, layouts⟩ := all codec.layouts
    (show At directory (s.use _) from inside)
    (fun data member => members data (List.mem_append_left _ member)) (follows.use _) laid
  obtain ⟨platformRows', v', platformed', follows, platforms⟩ := all codec.platforms here
    (fun data member => members data (List.mem_append_right _ member)) follows platformed
  have grown : Extends u v := (frame_extends.mapM codec.platforms fun file _ =>
    frame_extends.codecFile extends_buffer files file).of_takes platformed
  have grown' : Extends u' v' := (frame_extends.mapM codec.platforms fun file _ =>
    frame_extends.codecFile extends_freshBuffer files file).of_takes platformed'
  have other := Node.structType_ne_uint8 "CodecModInfo::File"
  have one := follows.array (show "layouts" ∈ otherStems by decide) other true
    (forall₂_alike_mono layouts grown grown')
  have two := one.array (show "platforms" ∈ otherStems by decide) other true
    (forall₂_alike_mono platforms ((Extends.mint _ _).trans (.add _ _))
      ((Extends.mint _ _).trans (.add _ _)))
  exact ⟨_, _, takes_codecFiles.mpr ⟨layoutRows', u', platformRows', v', laid', platformed', rfl,
    rfl⟩, two, follows.alike_nextName (by decide), one.alike_nextName (by decide)⟩

theorem simulates_codecInfo (directory : Path) (info : CodecInfo) :
    Simulates among (At directory) (info.bytes files directory) (codecInfo buffer files info)
      (codecInfo freshBuffer files info) Alike := by
  intro s s' row t inside members follows run
  obtain ⟨layouts, platforms, u, patchArray, v, revisionArray, filed, patched, revised, rfl⟩ :=
    takes_codecInfo.mp run
  obtain ⟨⟨layouts', platforms'⟩, u', filed', follows, laid, platformed⟩ :=
    simulates_codecFiles apart directory info.files inside
      (fun data member => members data (List.mem_append_left _ member)) follows filed
  obtain ⟨patchArray', v', patched', follows, patches⟩ :=
    simulates_patches apart info.patches trivial
      (fun data member => members data (List.mem_append_right _ member)) follows patched
  obtain ⟨revisionArray', t', revised', follows, revisions⟩ :=
    simulates_revisions info.revisions trivial (by simp) follows revised
  have last := (frame_extends.revisions info.revisions).of_takes revised
  have last' := (frame_extends.revisions info.revisions).of_takes revised'
  have grown := ((frame_extends.patches extends_buffer _).of_takes patched).trans last
  have grown' := ((frame_extends.patches extends_freshBuffer _).of_takes patched').trans last'
  refine ⟨_, t', takes_codecInfo.mpr ⟨layouts', platforms', u', patchArray', v', revisionArray',
    filed', patched', revised', rfl⟩, follows, ?_⟩
  intro meaning meaning' explains explains'
  have first := laid.mono grown grown' explains explains'
  have second := platformed.mono grown grown' explains explains'
  have third := patches.mono last last' explains explains'
  have fourth := revisions explains explains'
  simp [first, second, third, fourth, Source.hexOf]

/-- A bundle is simulated. -/
theorem simulates_codecBundle (bundle : CodecBundle) :
    Simulates among (fun _ => True) (bundle.bytes files) (codecBundle buffer files bundle)
      (codecBundle freshBuffer files bundle) Alike := by
  intro s s' row t _ members follows run
  obtain ⟨row', t', run', follows, alike⟩ := simulates_codecInfo apart bundle.path bundle.info
    (show At bundle.path { s with directory := bundle.path } from rfl) members
    (follows.enter bundle.path) (takes_codecBundle.mp run)
  exact ⟨row', t', takes_codecBundle.mpr run', follows, alike⟩

/-- The bundles of a vendor are simulated. -/
theorem simulates_vendorGroup (group : VendorGroup) :
    Simulates among (fun _ => True) (group.bytes files) (vendorGroup buffer files group)
      (vendorGroup freshBuffer files group) Alike := by
  intro s s' row t inside members follows run
  obtain ⟨rows, u, steps, rfl, rfl⟩ := takes_vendorGroup.mp run
  obtain ⟨rows', u', steps', follows, alikes⟩ := simulates_mapM (fun _ _ _ => trivial)
    (fun bundle => frame_extends.codecBundle extends_buffer files bundle
      fun s => { Extends.refl s with })
    (fun bundle => frame_extends.codecBundle extends_freshBuffer files bundle
      fun s => { Extends.refl s with })
    (simulates_codecBundle apart) group.bundles inside members (follows.headed _) steps
  have declared := follows.array (show "codecMod" ∈ otherStems by decide)
    (Node.structType_ne_uint8 "CodecModInfo") false alikes
  refine ⟨_, _, takes_vendorGroup.mpr ⟨rows', u', steps', rfl, rfl⟩,
    declared.use "CodecModInfo", ?_⟩
  intro meaning meaning' explains explains'
  have name := follows.alike_nextName (show "codecMod" ∈ otherStems by decide) explains explains'
  simp [name, Source.hexOf]

/-- A controller is simulated. -/
theorem simulates_controller (entry : Controller) :
    Simulates among (fun _ => True) entry.bytes (controller buffer entry)
      (controller freshBuffer entry) Alike := by
  intro s s' row t inside members follows run
  obtain ⟨patchArray, u, revisionArray, patched, revised, rfl⟩ := takes_controller.mp run
  obtain ⟨patchArray', u', patched', follows, patches⟩ :=
    simulates_patches apart entry.patches inside members follows patched
  obtain ⟨revisionArray', t', revised', follows, revisions⟩ :=
    simulates_revisions entry.revisions trivial (by simp) follows revised
  have grown := (frame_extends.revisions entry.revisions).of_takes revised
  have grown' := (frame_extends.revisions entry.revisions).of_takes revised'
  refine ⟨_, t', takes_controller.mpr ⟨patchArray', u', revisionArray', patched', revised', rfl⟩,
    follows, ?_⟩
  have symbol : ¬ NamesBytes entry.model.symbol := by
    apply not_namesBytes_of_isPlain
    cases entry.model <;> decide
  intro meaning meaning' explains explains'
  have first := patches.mono grown grown' explains explains'
  have second := revisions explains explains'
  have model := alike_of_foreign symbol explains explains'
  simp [first, second, model, Source.hexOf]

end Storage

/-! ### Tables -/

/-- A table is simulated if its rows are. -/
theorem simulates_table {struct name title : String} {used : α → List (List UInt8)}
    {step step' : α → Step Node} (grows : ∀ a, Keeps Extends (step a))
    (grows' : ∀ a, Keeps Extends (step' a))
    (each : ∀ a, Simulates among (fun _ => True) (used a) (step a) (step' a) Alike) (as : List α) :
    Simulates among (fun _ => True) (as.flatMap used)
      (do
        openSection title
        let rows ← as.mapM step
        declareTable struct name rows)
      (do
        openSection title
        let rows ← as.mapM step'
        declareTable struct name rows)
      fun _ _ _ _ => True := by
  intro s s' _ t inside members follows run
  obtain ⟨rows, u, steps, declared⟩ := takes_table.mp run
  obtain ⟨rows', u', steps', follows, alikes⟩ := simulates_mapM (fun _ _ _ => trivial) grows grows'
    each as inside members (follows.headed _) steps
  obtain ⟨t', declared', follows⟩ := simulates_declareTable struct name follows alikes declared
  exact ⟨(), t', takes_table.mpr ⟨rows', u', steps', declared'⟩, follows, trivial⟩

/-- The lookup table is simulated. -/
theorem simulates_lookupTable (entries : List LookupEntry) :
    Simulates among (fun _ => True) [] (lookupTable entries) (lookupTable entries)
      fun _ _ _ _ => True := by
  have all : Simulates among (fun _ => True) (entries.flatMap fun _ => []) (lookupTable entries)
      (lookupTable entries) fun _ _ _ _ => True :=
    simulates_table frame_extends.lookupEntry frame_extends.lookupEntry simulates_lookupEntry
      entries
  rwa [List.flatMap_eq_nil_iff.mpr fun _ _ => rfl] at all

/-- The kexts of a table are known on both sides. -/
theorem simulates_kextTable (table : KextTable) :
    Simulates among (fun _ => True) [] (kextTable table) (kextTable table)
      fun _ _ _ _ => True := by
  intro s s' _ t inside members follows run
  obtain ⟨rows, u, steps, declared⟩ := takes_kextTable.mp run
  have grows (entry : Plist.Scalar × KextInfo) : Keeps Extends (kextInfo entry.2) :=
    frame_extends.kextInfo entry.2
  have each (entry : Plist.Scalar × KextInfo) : Simulates among (fun _ => True) []
      (kextInfo entry.2) (kextInfo entry.2) Alike := simulates_kextInfo entry.2
  obtain ⟨rows', u', steps', follows, alikes⟩ := simulates_mapM_nil grows each table.entries inside
    members ((follows.headed _).register (notePlaces [] 0 table.entries)) steps
  obtain ⟨t', declared', follows'⟩ := simulates_declareTable _ _ follows alikes declared
  rw [← follows.kextTable] at declared'
  exact ⟨(), t', takes_kextTable.mpr ⟨rows', u', steps', declared'⟩, follows', trivial⟩

/-! ### All entities -/

theorem simulates_singleton {I : State → Prop} {used : List (List UInt8)} {step step' : Step Node}
    (simulates : Simulates among I used step step' Alike) :
    Simulates among I used (do return [← step]) (do return [← step'])
      fun t t' => List.Forall₂ (Alike t t') := by
  intro s s' nodes t inside members follows run
  obtain ⟨node, taken, rfl⟩ := takes_singleton.mp run
  obtain ⟨node', t', taken', follows, alike⟩ := simulates inside members follows taken
  exact ⟨[node'], t', takes_singleton.mpr ⟨node', taken', rfl⟩, follows, .cons alike .nil⟩

/-- A rule that gives no expression is simulated if its step is. -/
theorem simulates_nothing {I : State → Prop} {used : List (List UInt8)} {step step' : Step Unit}
    (simulates : Simulates among I used step step' fun _ _ _ _ => True) :
    Simulates among I used (do step; return []) (do step'; return [])
      fun t t' => List.Forall₂ (Alike t t') := by
  intro s s' nodes t inside members follows run
  obtain ⟨taken, rfl⟩ := takes_nothing.mp run
  obtain ⟨_, t', taken', follows, _⟩ := simulates inside members follows taken
  exact ⟨[], t', takes_nothing.mpr ⟨taken', rfl⟩, follows, .nil⟩

/-- What is simulated from all states is simulated from some of them. -/
theorem Simulates.anywhere {used : List (List UInt8)} {step step' : Step α}
    {alike : State → State → α → α → Prop}
    (simulates : Simulates among (fun _ => True) used step step' alike) (I : State → Prop) :
    Simulates among I used step step' alike :=
  fun _ _ _ _ _ members follows run => simulates trivial members follows run

section Entities

variable (apart : ∀ data, among data → ∀ data', among data' → hexDigest data = hexDigest data' →
  data = data')

include apart

/-- The table of vendors is simulated. -/
theorem simulates_vendorTable (groups : List VendorGroup) :
    Simulates among (fun _ => True) (groups.flatMap (·.bytes files))
      (vendorTable buffer files groups) (vendorTable freshBuffer files groups)
      fun _ _ _ _ => True := by
  intro s s' _ t inside members follows run
  obtain ⟨rows, u, steps, declared⟩ := takes_vendorTable.mp run
  obtain ⟨rows', u', steps', follows, alikes⟩ := simulates_mapM (fun _ _ _ => trivial)
    (fun group => frame_extends.vendorGroup extends_buffer files group
      fun _ _ s => { Extends.refl s with })
    (fun group => frame_extends.vendorGroup extends_freshBuffer files group
      fun _ _ s => { Extends.refl s with })
    (simulates_vendorGroup apart) groups inside members follows steps
  obtain ⟨t', declared', follows⟩ := simulates_declareTable "VendorModInfo" vendorTableName
    (follows.headed _) (forall₂_alike_mono alikes (.add _ _) (.add _ _)) declared
  exact ⟨(), t', takes_vendorTable.mpr ⟨rows', u', steps', declared'⟩, follows, trivial⟩

/-- The table of controllers is simulated. -/
theorem simulates_controllerTable (entries : List Controller) :
    Simulates among (fun _ => True) (entries.flatMap Controller.bytes)
      (controllerTable buffer entries) (controllerTable freshBuffer entries)
      fun _ _ _ _ => True :=
  simulates_table (frame_extends.controller extends_buffer)
    (frame_extends.controller extends_freshBuffer) (simulates_controller apart) entries

/-- Every entity is simulated. -/
theorem simulates_entityWith (directory : Path) (e : Entity) :
    Simulates among (At directory) (e.bytes files directory) (entityWith buffer files e)
      (entityWith freshBuffer files e) fun t t' => List.Forall₂ (Alike t t') := by
  cases e with
  | lookupTable entries =>
    exact simulates_nothing ((simulates_lookupTable entries).anywhere _)
  | kextTable table => exact simulates_nothing ((simulates_kextTable table).anywhere _)
  | vendorGroups groups =>
    exact simulates_nothing ((simulates_vendorTable apart groups).anywhere _)
  | controllerTable entries =>
    exact simulates_nothing ((simulates_controllerTable apart entries).anywhere _)
  | codecFiles codec =>
    intro s s' nodes t inside members follows run
    obtain ⟨arrays, _, filed, rest⟩ := takes_bind.mp run
    obtain ⟨rfl, rfl⟩ := takes_pure.mp rest
    obtain ⟨arrays', t', filed', follows, laid, platformed⟩ :=
      simulates_codecFiles apart directory codec inside members follows filed
    exact ⟨_, t', takes_bind.mpr ⟨arrays', t', filed', takes_pure.mpr ⟨rfl, rfl⟩⟩, follows,
      .cons laid (.cons platformed .nil)⟩
  | lookupEntry entry => exact simulates_singleton ((simulates_lookupEntry entry).anywhere _)
  | kextInfo info => exact simulates_singleton ((simulates_kextInfo info).anywhere _)
  | vendorGroup group =>
    exact simulates_singleton ((simulates_vendorGroup apart group).anywhere _)
  | codecBundle bundle =>
    exact simulates_singleton ((simulates_codecBundle apart bundle).anywhere _)
  | codecInfo info => exact simulates_singleton (simulates_codecInfo apart directory info)
  | codecFile file => exact simulates_singleton (simulates_codecFile apart directory file)
  | controller entry => exact simulates_singleton ((simulates_controller apart entry).anywhere _)
  | patches list => exact simulates_singleton ((simulates_patches apart list).anywhere _)
  | patch p => exact simulates_singleton ((simulates_patch apart p).anywhere _)
  | revisions codes => exact simulates_singleton ((simulates_revisions codes).anywhere _)

/-- Entities that are compiled one after the other with shared arrays can be compiled with fresh
arrays. -/
theorem simulates_visits (directory : Path) (list : List Visit) :
    Simulates among (At directory) (bytesOfVisits directory list) (visits buffer list)
      (visits freshBuffer list) fun t t' => List.Forall₂ (List.Forall₂ (Alike t t')) := by
  intro s s' results t inside members follows run
  have steps := takes_mapM.mp run
  clear run
  induction steps generalizing s' directory with
  | nil s => exact ⟨[], s', takes_mapM.mpr (.nil s'), follows, .nil⟩
  | @cons s u t visit nodes rest results first later ih =>
    obtain ⟨nodes', u', first', follows, alikes⟩ :=
      simulates_entityWith apart directory visit.entity inside
        (fun data member => members data (List.mem_append_left _ member)) follows first
    have here : At (visit.entity.directory directory) u := by
      have moved := directory_entityWith directory_buffer first
      rwa [show s.directory = directory from inside] at moved
    obtain ⟨results', t', later', follows, all⟩ := ih _ here
      (fun data member => members data (List.mem_append_right _ member)) follows
    have grown : Extends u t := (frame_extends.mapM rest fun visit _ =>
      extends_entityWith extends_buffer visit.files visit.entity).of_takes (takes_mapM.mpr later)
    have grown' : Extends u' t' := (frame_extends.mapM rest fun visit _ =>
      extends_entityWith extends_freshBuffer visit.files visit.entity).of_takes later'
    exact ⟨nodes' :: results', t', takes_mapM.mpr (.cons first' (takes_mapM.mp later')), follows,
      .cons (forall₂_alike_mono alikes grown grown') all⟩

end Entities

end CodecTables.Compile
