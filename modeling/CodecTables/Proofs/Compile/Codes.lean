import CodecTables.Proofs.Compile.Rules
import CodecTables.Proofs.Compile.Visits
import CodecTables.Proofs.Decode.Schema
import CodecTables.Proofs.Resource.Groups
import CodecTables.Proofs.Source.Hexadecimal

/-!
# Codes of resources

The hexadecimal numbers of a source are codes: the numbers of vendors, codecs and devices, and of
their revisions. Compiling an entity adds its codes to the source or to the expressions that are
given for it, each as often as the entity has it, and no others (`Emits`).
-/

namespace CodecTables

open Files (Tree)
open Plist (Value)
open Resource
open Source (Node codesOf hexOf)

/-! ### Codes of entities -/

namespace Resource

/-- The codes of revisions, which are written with thirty-two bits. -/
def revisionCodes (revisions : List Int) : List (Int × Int) :=
  revisions.map fun revision => (revision, 32)

/-- The codes of a codec with their widths. -/
def CodecInfo.codes (info : CodecInfo) : List (Int × Int) :=
  (info.id, 16) :: revisionCodes info.revisions

/-- The code of a vendor among codecs. -/
def Vendor.code (vendor : Vendor) : Int × Int := (vendor.id, 16)

/-- The codes of a vendor and of its bundles. -/
def VendorGroup.codes (group : VendorGroup) : List (Int × Int) :=
  group.vendor.code :: group.bundles.flatMap fun bundle => bundle.info.codes

/-- The codes of a controller. -/
def Controller.codes (entry : Controller) : List (Int × Int) :=
  ((entry.vendor.id : Int), 32) :: (entry.device, 32) :: revisionCodes entry.revisions

/-- The codes of an entity with the widths that they are written with. -/
def Entity.codes : Entity → List (Int × Int)
  | vendorGroups groups => groups.flatMap VendorGroup.codes
  | vendorGroup group => group.codes
  | codecBundle bundle => bundle.info.codes
  | codecInfo info => info.codes
  | controllerTable entries => entries.flatMap Controller.codes
  | controller entry => entry.codes
  | revisions list => revisionCodes list
  | lookupTable _ | lookupEntry _ | kextTable _ | kextInfo _ | codecFiles _ | codecFile _
  | patches _ | patch _ => []

section Width

variable {code : Int × Int}

/-- The code is written with sixteen or with thirty-two bits. -/
def HasCodeWidth (code : Int × Int) : Prop := code.2 = 16 ∨ code.2 = 32

/-- The codes of revisions have a width for codes. -/
theorem hasCodeWidth_of_mem_revisionCodes {revisions : List Int}
    (member : code ∈ revisionCodes revisions) : HasCodeWidth code := by
  obtain ⟨_, _, rfl⟩ := List.mem_map.mp member
  exact .inr rfl

/-- The codes of a codec have a width for codes. -/
theorem CodecInfo.hasCodeWidth {info : CodecInfo} (member : code ∈ info.codes) :
    HasCodeWidth code := by
  rcases List.mem_cons.mp member with rfl | revision
  · exact .inl rfl
  · exact hasCodeWidth_of_mem_revisionCodes revision

/-- The codes of a vendor have a width for codes. -/
theorem VendorGroup.hasCodeWidth {group : VendorGroup} (member : code ∈ group.codes) :
    HasCodeWidth code := by
  rcases List.mem_cons.mp member with rfl | inner
  · exact .inl rfl
  · obtain ⟨bundle, _, listed⟩ := List.mem_flatMap.mp inner
    exact bundle.info.hasCodeWidth listed

/-- The codes of a controller have a width for codes. -/
theorem Controller.hasCodeWidth {entry : Controller} (member : code ∈ entry.codes) :
    HasCodeWidth code := by
  rcases List.mem_cons.mp member with rfl | rest
  · exact .inr rfl
  rcases List.mem_cons.mp rest with rfl | revision
  · exact .inr rfl
  · exact hasCodeWidth_of_mem_revisionCodes revision

/-- The codes of an entity have a width for codes. -/
theorem Entity.hasCodeWidth {e : Entity} (member : code ∈ e.codes) : HasCodeWidth code := by
  cases e with
  | vendorGroups groups =>
    obtain ⟨group, _, listed⟩ := List.mem_flatMap.mp member
    exact group.hasCodeWidth listed
  | vendorGroup group => exact group.hasCodeWidth member
  | codecBundle bundle => exact bundle.info.hasCodeWidth member
  | codecInfo info => exact info.hasCodeWidth member
  | controllerTable entries =>
    obtain ⟨entry, _, listed⟩ := List.mem_flatMap.mp member
    exact entry.hasCodeWidth listed
  | controller entry => exact entry.hasCodeWidth member
  | revisions list => exact hasCodeWidth_of_mem_revisionCodes member
  | _ => exact absurd member List.not_mem_nil

end Width

/-- The codes of groups are those of their vendors and of their bundles. -/
theorem VendorGroup.codes_perm (groups : List VendorGroup) :
    (groups.flatMap VendorGroup.codes).Perm
      ((groups.map VendorGroup.vendor).map Vendor.code ++
        (groups.flatMap VendorGroup.bundles).flatMap fun bundle => bundle.info.codes) := by
  induction groups with
  | nil => exact .refl _
  | cons group rest ih =>
    rw [List.flatMap_cons, List.flatMap_cons, List.flatMap_append, List.map_cons, List.map_cons,
      List.cons_append]
    refine List.Perm.cons _ ?_
    exact (List.Perm.append_left _ ih).trans (List.perm_append_comm_assoc _ _ _)

/-- Grouped bundles have the codes of their vendors, each once, and those of the bundles. -/
theorem VendorGroup.codes_group_perm (bundles : List CodecBundle) :
    ((VendorGroup.group bundles).flatMap VendorGroup.codes).Perm
      ((VendorGroup.vendorsOf bundles).map Vendor.code ++
        bundles.flatMap fun bundle => bundle.info.codes) := by
  have vendors : (VendorGroup.group bundles).map VendorGroup.vendor =
      VendorGroup.vendorsOf bundles := by
    rw [group_eq, List.map_map]
    exact List.map_id _
  have all := VendorGroup.codes_perm (VendorGroup.group bundles)
  rw [vendors] at all
  exact all.trans (List.Perm.append_left _ ((flatMap_group_perm bundles).flatMap_right _))

end Resource

/-! ### Codes of property lists -/

namespace Decode

/-- The record names the vendor by its label. -/
def GivesVendor (entry : Record) (vendor : Vendor) : Prop :=
  Gives entry "Vendor" (.string vendor.label)

/-- The vendor of a record that describes a codec, and its codes: its number and its revisions, if
it has any. -/
def InfoCodes (entry : Record) (content : Vendor × List (Int × Int)) : Prop :=
  ∃ id revisions, GivesVendor entry content.1 ∧ Gives entry "CodecID" (.int id) ∧
    GivesOr entry "Revisions" codes [] revisions ∧
    content.2 = (id, 16) :: revisionCodes revisions

/-- The codes of a record that describes a controller: the numbers of its vendor and of its device,
and its revisions, if it has any. -/
def ControllerCodes (entry : Record) (content : List (Int × Int)) : Prop :=
  ∃ (vendor : Vendor) (device : Int) (revisions : List Int),
    GivesVendor entry vendor ∧ Gives entry "Device" (.int device) ∧
    GivesOr entry "Revisions" codes [] revisions ∧
    content = ((vendor.id : Int), 32) :: (device, 32) :: revisionCodes revisions

/-- The codes of a decoded codec are those that its record gives. -/
theorem infoCodes_of_codecInfo {value : Value} {info : CodecInfo}
    (decoded : codecInfo value = .ok info) :
    IsRecord InfoCodes value (info.vendor, info.codes) := by
  obtain ⟨entry, same, fields⟩ := (codecInfo_eq_ok value info).mp decoded
  exact ⟨entry, same, info.id, info.revisions, fields.vendor, fields.id, fields.revisions, rfl⟩

/-- The codes of decoded controllers are those that their records give. -/
theorem controllerCodes_of_controllerTable {value : Value} {entries : List Controller}
    (decoded : controllerTable value = .ok entries) :
    IsArray (IsRecord ControllerCodes) value (entries.map Controller.codes) := by
  obtain ⟨values, same, each⟩ := (controllerTable_eq_ok value entries).mp decoded
  refine ⟨values, same, List.forall₂_map_right_iff.mpr (each.imp fun value content described => ?_)⟩
  obtain ⟨entry, same, fields⟩ := described
  exact ⟨entry, same, content.vendor, content.device, content.revisions, fields.vendor,
    fields.device, fields.revisions, rfl⟩

end Decode

namespace Compile

variable {α : Type} {s t u : State} {nodes nodes' : List Node} {codes codes' : List (Int × Int)}

/-! ### Codes of runs -/

/-- Between two states, the listed codes and no others are added to the source or to given
expressions. -/
def Emission (s : State) (nodes : List Node) (codes : List (Int × Int)) (t : State) : Prop :=
  (codesOf t.statements ++ codesOf nodes).Perm (codesOf s.statements ++ codes)

namespace Emission

theorem of_eq (same : t.statements = s.statements) : Emission s [] [] t := by
  unfold Emission
  rw [same]
  exact .refl _

/-- Expressions that are given have their own codes. -/
theorem given (s : State) (nodes : List Node) : Emission s nodes (codesOf nodes) s := .refl _

theorem of_statements (emission : Emission s nodes codes t) (same : u.statements = t.statements) :
    Emission s nodes codes u := by
  unfold Emission at *
  rwa [same]

theorem append (first : Emission s nodes codes t) (second : Emission t nodes' codes' u) :
    Emission s (nodes ++ nodes') (codes ++ codes') u := by
  unfold Emission at *
  rw [List.perm_iff_count] at *
  intro code
  have counts := first code
  have counts' := second code
  rw [Source.codesOf_append]
  simp only [List.count_append] at counts counts' ⊢
  omega

/-- Other expressions with the same codes. -/
theorem exchange (emission : Emission s nodes codes t)
    (same : (codesOf nodes').Perm (codesOf nodes)) : Emission s nodes' codes t :=
  (List.Perm.append_left _ same).trans emission

/-- A statement takes up the expressions in it. -/
theorem declare {rest : List Node} {statement : Node}
    (emission : Emission s (nodes ++ rest) codes t)
    (holds : statement.codes = codesOf nodes) (same : u.statements = t.statements ++ [statement]) :
    Emission s rest codes u := by
  have codes' : codesOf u.statements = codesOf t.statements ++ codesOf nodes := by
    rw [same, Source.codesOf_append, codesOf, codesOf, holds, List.append_nil]
  unfold Emission at *
  rwa [codes', List.append_assoc, ← Source.codesOf_append]

/-- A statement takes up all expressions. -/
theorem declareAll {statement : Node} (emission : Emission s nodes codes t)
    (holds : statement.codes = codesOf nodes) (same : u.statements = t.statements ++ [statement]) :
    Emission s [] codes u := by
  have all : Emission s (nodes ++ []) codes t := by rwa [List.append_nil]
  exact all.declare holds same

/-- A heading has no codes. -/
theorem heading (s : State) (title : String) : Emission s [] [] (s.headed title) :=
  declareAll (.of_eq rfl) rfl rfl

/-- A table takes up its rows. -/
theorem table {struct table : String} {rows : List Node} (emission : Emission s rows codes t)
    (run : Takes (declareTable struct table rows) t () u) : Emission s [] codes u := by
  have same := takes_declareTable.mp run
  subst same
  have rowed : Emission s [] codes (t.add (.declare (Source.structArray struct) table
      (.literal rows))) := emission.declareAll rfl rfl
  have sized : Emission s [] codes ((t.add _).add (.declareConst .sizeType (sizeName table)
      (.integer rows.length))) := rowed.declareAll rfl rfl
  exact sized

end Emission

/-- The runs of a step add the listed codes. -/
def Emits (step : Step α) (nodes : α → List Node) (codes : List (Int × Int)) : Prop :=
  ∀ ⦃s a t⦄, Takes step s a t → Emission s (nodes a) codes t

/-- Steps over a list emit the codes of all its elements. -/
theorem emits_mapM {step : α → Step Node} {codes : α → List (Int × Int)}
    (each : ∀ a, Emits (step a) (fun row => [row]) (codes a)) (as : List α) :
    Emits (as.mapM step) id (as.flatMap codes) := by
  intro s rows t run
  have steps := takes_mapM.mp run
  clear run
  induction steps with
  | nil s => exact .of_eq rfl
  | cons first _ ih => exact (each _ first).append ih

/-- Steps without codes have none together. -/
theorem emits_mapM_nil {step : α → Step Node} (each : ∀ a, Emits (step a) (fun row => [row]) [])
    (as : List α) : Emits (as.mapM step) id [] := by
  have all := emits_mapM each as
  rwa [List.flatMap_eq_nil_iff.mpr fun _ _ => rfl] at all

/-- A table takes up the rows that come after its heading. -/
theorem emits_table {struct table title : String} {as : List α} {step : α → Step Node}
    {codes : α → List (Int × Int)} (each : ∀ a, Emits (step a) (fun row => [row]) (codes a)) :
    Emits (do
      openSection title
      let rows ← as.mapM step
      declareTable struct table rows) (fun _ => []) (as.flatMap codes) := by
  intro s _ t run
  obtain ⟨rows, v, steps, declared⟩ := takes_table.mp run
  exact ((Emission.heading s title).append (emits_mapM each as steps)).table declared

/-! ### Rules without codes -/

theorem emits_stringArray (stem : String) (strings : List String) :
    Emits (stringArray stem strings) (fun _ => []) [] := by
  intro s name t run
  obtain ⟨rfl, rfl⟩ := takes_stringArray.mp run
  have none : (Node.declareStaticConst Source.stringArray (s.nextName stem)
      (.literal (strings.map .string))).codes = codesOf [] := Source.codesOf_map_string strings
  exact Emission.declareAll (.of_eq rfl) none rfl

theorem emits_buffer (data : List UInt8) (stem : String) :
    Emits (buffer data stem) (fun _ => []) [] := by
  intro s name t run
  rcases takes_buffer.mp run with ⟨_, rfl⟩ | ⟨_, rfl, rfl⟩
  · exact .of_eq rfl
  · exact Emission.declareAll (.of_eq rfl) rfl rfl

theorem emits_lookupEntry (entry : LookupEntry) :
    Emits (lookupEntry entry) (fun row => [row]) [] := by
  intro s row t run
  obtain ⟨tree, stored, rfl⟩ := takes_lookupEntry.mp run
  exact (emits_stringArray _ _ stored).exchange (.refl _)

theorem emits_kextInfo (info : KextInfo) : Emits (kextInfo info) (fun row => [row]) [] := by
  intro s row t run
  obtain ⟨paths, stored, rfl⟩ := takes_kextInfo.mp run
  exact (emits_stringArray _ _ stored).exchange (.refl _)

theorem emits_lookupTable (entries : List LookupEntry) :
    Emits (lookupTable entries) (fun _ => []) [] := by
  have all : Emits (lookupTable entries) (fun _ => []) (entries.flatMap fun _ => []) :=
    emits_table emits_lookupEntry
  rwa [List.flatMap_eq_nil_iff.mpr fun _ _ => rfl] at all

theorem emits_kextTable (table : KextTable) : Emits (kextTable table) (fun _ => []) [] := by
  intro s _ t run
  obtain ⟨rows, v, steps, declared⟩ := takes_kextTable.mp run
  have headed : Emission s [] []
      ((s.headed "Kexts Section").register (notePlaces [] 0 table.entries)) :=
    (Emission.heading s "Kexts Section").of_statements rfl
  have each (entry : Plist.Scalar × KextInfo) :
      Emits (kextInfo entry.2) (fun row => [row]) [] := emits_kextInfo entry.2
  have stored := emits_mapM_nil each table.entries steps
  exact (headed.append stored).table declared

theorem emits_patch (p : Patch) : Emits (patch buffer p) (fun row => [row]) [] := by
  intro s row t run
  obtain ⟨find, u, replace, place, stored, stored', _, rfl⟩ := takes_patch.mp run
  exact ((emits_buffer _ _ stored).append (emits_buffer _ _ stored')).exchange (.refl _)

theorem emits_patches (list : List Patch) :
    Emits (patches buffer list) (fun node => [node]) [] := by
  intro s node t run
  obtain ⟨rows, u, steps, rfl, rfl⟩ := takes_patches.mp run
  have stored := emits_mapM_nil emits_patch list steps
  have declared : Emission s [] [] ((u.mint "patches").add
      (.declareArray (.structType "KextPatch") (u.nextName "patches") true rows)) :=
    stored.declareAll rfl rfl
  exact declared.exchange (.refl _)

theorem emits_codecFile (files : Tree) (file : CodecFile) :
    Emits (codecFile buffer files file) (fun row => [row]) [] := by
  intro s row t run
  cases found : files.read (s.directory.join (.ofString file.path)) with
  | ok bytes =>
    obtain ⟨content, stored, rfl⟩ := (takes_codecFile_of_ok found).mp run
    exact (emits_buffer _ _ stored).exchange (.refl _)
  | error problem =>
    obtain ⟨_, rfl, rfl⟩ := (takes_codecFile_of_error found).mp run
    exact Emission.exchange (.of_eq rfl) (.refl _)

/-- Each of the two arrays takes up its rows. -/
theorem emits_codecFiles (files : Tree) (codec : CodecFiles) :
    Emits (codecFiles buffer files codec) (fun arrays => [arrays.1, arrays.2]) [] := by
  intro s arrays t run
  obtain ⟨layouts, u, platforms, v, laid, platformed, rfl, rfl⟩ := takes_codecFiles.mp run
  have begun : Emission s [] [] (s.use "CodecModInfo::File") := .of_eq rfl
  have first := emits_mapM_nil (emits_codecFile files) _ laid
  have second := emits_mapM_nil (emits_codecFile files) _ platformed
  have rows : Emission s platforms [] ((v.mint "layouts").add (.declareArray
      (.structType "CodecModInfo::File") (v.nextName "layouts") true layouts)) :=
    ((begun.append first).append second).declare rfl rfl
  have arrays : Emission s [] [] (v.addFileArrays layouts platforms) := rows.declareAll rfl rfl
  exact arrays.exchange (.refl _)

/-! ### Rules with codes -/

theorem emits_revisions (list : List Int) :
    Emits (revisions list) (fun node => [node]) (revisionCodes list) := by
  intro s node t run
  rcases takes_revisions.mp run with ⟨rfl, rfl, rfl⟩ | ⟨_, rfl, rfl⟩
  · exact Emission.exchange (.of_eq rfl) (.refl _)
  · have rows := Emission.given s (list.map fun code => hexOf code 32)
    rw [Source.codesOf_map_hexOf] at rows
    have declared : Emission s [] (revisionCodes list)
        ((s.mint "revisions").add (.declareArray Source.uint32 (s.nextName "revisions") true
          (list.map fun code => hexOf code 32))) := rows.declareAll rfl rfl
    exact declared.exchange (.refl _)

/-- The row of a codec holds its number; its revisions are in an array. -/
theorem emits_codecInfo (files : Tree) (info : CodecInfo) :
    Emits (codecInfo buffer files info) (fun row => [row]) info.codes := by
  intro s row t run
  obtain ⟨layouts, platforms, u, patches, v, revisions, filed, patched, revised, rfl⟩ :=
    takes_codecInfo.mp run
  have files := (Emission.given s [hexOf info.id 16]).append (emits_codecFiles files _ filed)
  have all := (files.append (emits_patches _ patched)).append (emits_revisions _ revised)
  refine Emission.exchange all ?_
  rw [List.perm_iff_count]
  intro code
  simp [codesOf, Node.codes, hexOf, List.count_cons]
  omega

/-- A bundle emits the codes of its description. -/
theorem emits_codecBundle (files : Tree) (bundle : CodecBundle) :
    Emits (codecBundle buffer files bundle) (fun row => [row]) bundle.info.codes := by
  intro s row t run
  have emission := emits_codecInfo files bundle.info (takes_codecBundle.mp run)
  exact emission

/-- The row of a vendor holds its number; the rows of its codecs are in an array. -/
theorem emits_vendorGroup (files : Tree) (group : VendorGroup) :
    Emits (vendorGroup buffer files group) (fun row => [row]) group.codes := by
  intro s row t run
  obtain ⟨rows, u, steps, rfl, rfl⟩ := takes_vendorGroup.mp run
  have headed := Emission.heading s ("Codec Section [" ++ group.vendor.label ++ "]")
  have bundles := headed.append (emits_mapM (emits_codecBundle files) _ steps)
  have declared : Emission s [] (group.bundles.flatMap fun bundle => bundle.info.codes)
      ((u.mint "codecMod").add (.declareArray (.structType "CodecModInfo") (u.nextName "codecMod")
        false rows)) := bundles.declareAll rfl rfl
  exact (Emission.given s [hexOf group.vendor.id 16]).append declared

/-- The table of vendors emits the codes of its groups. -/
theorem emits_vendorTable (files : Tree) (groups : List VendorGroup) :
    Emits (vendorTable buffer files groups) (fun _ => []) (groups.flatMap VendorGroup.codes) := by
  intro s _ t run
  obtain ⟨rows, v, steps, declared⟩ := takes_vendorTable.mp run
  have sections := emits_mapM (emits_vendorGroup files) groups steps
  have headed := sections.append (Emission.heading v "Vendor Section")
  rw [List.append_nil, List.append_nil] at headed
  exact headed.table declared

/-- The row of a controller holds the numbers of its vendor and its device. -/
theorem emits_controller (entry : Controller) :
    Emits (controller buffer entry) (fun row => [row]) entry.codes := by
  intro s row t run
  obtain ⟨patches, u, revisions, patched, revised, rfl⟩ := takes_controller.mp run
  have all := ((Emission.given s [hexOf entry.vendor.id 32, hexOf entry.device 32]).append
    (emits_patches _ patched)).append (emits_revisions _ revised)
  refine Emission.exchange all ?_
  rw [List.perm_iff_count]
  intro code
  simp [codesOf, Node.codes, hexOf, List.count_cons]
  omega

/-- The table of controllers emits the codes of its entries. -/
theorem emits_controllerTable (entries : List Controller) :
    Emits (controllerTable buffer entries) (fun _ => []) (entries.flatMap Controller.codes) :=
  emits_table emits_controller

/-! ### All entities -/

/-- An entity emits its codes. -/
theorem emits_entity (files : Tree) (e : Entity) : Emits (entity files e) id e.codes := by
  intro s nodes t run
  have single {step : Step Node} {codes : List (Int × Int)}
      (emits : Emits step (fun row => [row]) codes) (run : Takes (do return [← step]) s nodes t) :
      Emission s nodes codes t := by
    obtain ⟨node, taken, rfl⟩ := takes_singleton.mp run
    exact emits taken
  have nothing {step : Step Unit} {codes : List (Int × Int)}
      (emits : Emits step (fun _ => []) codes) (run : Takes (do step; return []) s nodes t) :
      Emission s nodes codes t := by
    obtain ⟨taken, rfl⟩ := takes_nothing.mp run
    exact emits taken
  cases e with
  | lookupTable entries => exact nothing (emits_lookupTable entries) run
  | kextTable table => exact nothing (emits_kextTable table) run
  | vendorGroups groups => exact nothing (emits_vendorTable files groups) run
  | controllerTable entries => exact nothing (emits_controllerTable entries) run
  | codecFiles codec =>
    obtain ⟨⟨layouts, platforms⟩, u, filed, rest⟩ := takes_bind.mp run
    obtain ⟨rfl, rfl⟩ := takes_pure.mp rest
    exact emits_codecFiles files codec filed
  | lookupEntry entry => exact single (emits_lookupEntry entry) run
  | kextInfo info => exact single (emits_kextInfo info) run
  | vendorGroup group => exact single (emits_vendorGroup files group) run
  | codecBundle bundle => exact single (emits_codecBundle files bundle) run
  | codecInfo info => exact single (emits_codecInfo files info) run
  | codecFile file => exact single (emits_codecFile files file) run
  | controller entry => exact single (emits_controller entry) run
  | patches list => exact single (emits_patches list) run
  | patch p => exact single (emits_patch p) run
  | revisions codes => exact single (emits_revisions codes) run

/-- The codes of entities that are compiled one after the other. -/
def codesOfVisits (list : List Visit) : List (Int × Int) :=
  list.flatMap fun visit => visit.entity.codes

/-- A run of visits emits the codes of all entities in it. -/
theorem emission_visits {list : List Visit} {results : List (List Node)}
    (run : Takes (visits buffer list) s results t) :
    Emission s results.flatten (codesOfVisits list) t := by
  have steps := takes_mapM.mp run
  clear run
  induction steps with
  | nil s => exact .of_eq rfl
  | cons first _ ih => exact (emits_entity _ _ first).append ih

/-- Compiling adds the codes of its entities, which are those of their property lists, and each is
written as one text: a literal of this code and of no other number, unless the code is below
zero. -/
theorem codes_read_back {list : List Visit} {results : List (List Node)}
    (run : Takes (visits buffer list) s results t) :
    (codesOf t.statements ++ codesOf results.flatten).Perm
      (codesOf s.statements ++ codesOfVisits list) ∧
    (∀ code ∈ codesOfVisits list, ∃ text,
      (hexOf code.1 code.2).print = Source.Print.write text ∧
      ∀ number, Source.IsHexLiteral (Int.fdiv code.2 4) text number ↔
        0 ≤ code.1 ∧ number = code.1) ∧
    (∀ value info, Decode.codecInfo value = .ok info →
      Decode.IsRecord Decode.InfoCodes value (info.vendor, info.codes)) ∧
    (∀ bundles, (Entity.vendorGroups (VendorGroup.group bundles)).codes.Perm
      ((VendorGroup.vendorsOf bundles).map Vendor.code ++
        bundles.flatMap fun bundle => bundle.info.codes)) ∧
    ∀ value entries, Decode.controllerTable value = .ok entries →
      Decode.IsArray (Decode.IsRecord Decode.ControllerCodes) value
        (entries.map Controller.codes) := by
  refine ⟨emission_visits run, fun code member => ?_,
    fun _ _ => Decode.infoCodes_of_codecInfo, VendorGroup.codes_group_perm,
    fun _ _ => Decode.controllerCodes_of_controllerTable⟩
  obtain ⟨visit, _, listed⟩ := List.mem_flatMap.mp member
  obtain ⟨length, known⟩ : ∃ length,
      Text.lengthOf .format (max (Int.fdiv code.2 4) 1) = .ok length := by
    rcases Entity.hasCodeWidth listed with width | width
    · rw [width]
      exact ⟨4, Text.lengthOf_eq_ok_iff.mpr (by decide)⟩
    · rw [width]
      exact ⟨8, Text.lengthOf_eq_ok_iff.mpr (by decide)⟩
  exact ⟨_, Source.print_hexOf known, fun number => Source.isHexLiteral_hexSpelling_iff⟩

/-- A codec with two revisions, as a property list. -/
def revisedCodec : Value :=
  .dict [(.string "Vendor", .string "Realtek"), (.string "CodecName", .string "ALC269"),
    (.string "CodecID", .int 0x269), (.string "Files", .dict []),
    (.string "Revisions", .array [.scalar (.int 0x100100), .scalar (.int 0)])]

/-- What the codec with two revisions is decoded to. -/
def revisedInfo : CodecInfo := ⟨.realtek, "ALC269", 0x269, ⟨[], []⟩, [], [0x100100, 0]⟩

/-- A list of one controller with a revision, as a property list. -/
def revisedControllers : Value :=
  .array [.dict [(.string "Vendor", .string "Intel"), (.string "Device", .int 0xA170),
    (.string "Name", .string "Sunrise Point"),
    (.string "Revisions", .array [.scalar (.int 0x31)])]]

/-- What the list of one controller is decoded to. -/
def revisedEntries : List Controller :=
  [⟨0xA170, "Sunrise Point", .intel, [], [0x31], .any, 0⟩]

/-- The bundle of the codec and the controllers are compiled one after the other. -/
def revisedVisits : List Visit :=
  [⟨.empty, .vendorGroups (VendorGroup.group [⟨revisedInfo, .here⟩])⟩,
    ⟨.empty, .controllerTable revisedEntries⟩]

/-- The codes of the bundle and of the controller. -/
def revisedCodes : List (Int × Int) :=
  [(0x10EC, 16), (0x269, 16), (0x100100, 32), (0, 32), (0x8086, 32), (0xA170, 32), (0x31, 32)]

/-- A run over a codec with two revisions and a controller, with all its codes. -/
theorem codes_read_back_revised :
    Decode.codecInfo revisedCodec = .ok revisedInfo ∧
    Decode.controllerTable revisedControllers = .ok revisedEntries ∧
    ∃ results s, Takes (visits buffer revisedVisits) (.start [] (.start none) .empty) results s ∧
      (codesOf s.statements ++ codesOf results.flatten).Perm revisedCodes ∧
      (∀ code ∈ revisedCodes, ∃ text, (hexOf code.1 code.2).print = Source.Print.write text ∧
        Source.IsHexLiteral (Int.fdiv code.2 4) text code.1) ∧
      Decode.IsRecord Decode.InfoCodes revisedCodec
        (.realtek, [(0x269, 16), (0x100100, 32), (0, 32)]) ∧
      (Entity.vendorGroups (VendorGroup.group [⟨revisedInfo, .here⟩])).codes.Perm
        [(0x10EC, 16), (0x269, 16), (0x100100, 32), (0, 32)] ∧
      Decode.IsArray (Decode.IsRecord Decode.ControllerCodes) revisedControllers
        [[(0x8086, 32), (0xA170, 32), (0x31, 32)]] := by
  have codec : Decode.codecInfo revisedCodec = .ok revisedInfo := by rfl
  have controllers : Decode.controllerTable revisedControllers = .ok revisedEntries := by rfl
  have goes : stopOf (visits buffer revisedVisits) (.start [] (.start none) .empty) = none := by
    decide +kernel
  obtain ⟨results, s, run⟩ := exists_takes_of_stopOf goes
  have listed : codesOfVisits revisedVisits = revisedCodes := by decide
  obtain ⟨whole, each, infos, groups, tables⟩ := codes_read_back run
  rw [listed] at whole each
  refine ⟨codec, controllers, results, s, run, whole, fun code member => ?_, infos _ _ codec,
    groups _, tables _ _ controllers⟩
  obtain ⟨text, printed, reads⟩ := each code member
  have natural : ∀ code ∈ revisedCodes, 0 ≤ code.1 := by decide
  exact ⟨text, printed, (reads code.1).mpr ⟨natural code member, rfl⟩⟩

/-- A codec whose number is below zero. -/
def negativeCodec : Value :=
  .dict [(.string "Vendor", .string "Realtek"), (.string "CodecName", .string "ALC887"),
    (.string "CodecID", .int (-5)), (.string "Files", .dict [])]

/-- A number below zero is no literal of any number. -/
theorem codes_negative_unread :
    ∃ info row s, Decode.codecInfo negativeCodec = .ok info ∧
      Takes (codecInfo buffer .empty info) (.start [] (.start none) .empty) row s ∧
      ((-5, 16) : Int × Int) ∈ row.codes ∧ (hexOf (-5) 16).render "\t" = .ok "0x-005" ∧
      ∀ number, ¬ Source.IsHexLiteral 4 "0x-005" number := by
  let info : CodecInfo := ⟨.realtek, "ALC887", -5, ⟨[], []⟩, [], []⟩
  have decoded : Decode.codecInfo negativeCodec = .ok info := by rfl
  have goes : stopOf (codecInfo buffer .empty info) (.start [] (.start none) .empty) = none := by
    decide +kernel
  obtain ⟨row, s, run⟩ := exists_takes_of_stopOf goes
  obtain ⟨_, _, _, _, _, _, _, _, _, rfl⟩ := takes_codecInfo.mp run
  have known : Text.lengthOf .format (max (Int.fdiv 16 4) 1) = .ok 4 :=
    Text.lengthOf_eq_ok_iff.mpr (by decide)
  have spelled : Source.hexSpelling (-5) 16 = "0x-005" := by decide
  have rendered : (hexOf (-5) 16).render "\t" = .ok (Source.hexSpelling (-5) 16) :=
    Source.render_of_print (Source.print_hexOf known) (by decide) "\t"
  refine ⟨info, _, s, decoded, run, List.mem_cons_self, spelled ▸ rendered, fun number => ?_⟩
  rw [← spelled]
  exact Source.not_isHexLiteral_hexSpelling (by decide) 16 number

end Compile

end CodecTables
