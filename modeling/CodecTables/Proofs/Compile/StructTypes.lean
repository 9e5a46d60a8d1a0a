import CodecTables.Proofs.Compile.Rules
import CodecTables.Proofs.Compile.Visits
import Mathlib.Data.Finset.Card

/-!
# Struct types in use

Compiling notes a struct type before it declares an array of it. On a run that goes through, the
types that are noted are those of the arrays that are declared, in their order, and no others
(`usage_visits`). They are noted in one table: the table that the caller gives, if there is a type
in it already, and else one of the compiler's own (`useAll_start`).
-/

namespace CodecTables

open Files (Tree)
open Resource
open Source (Node TypeTable)

/-! ### Tables of types -/

namespace Source

namespace TypeTable

/-- The size of a table is the number of its types. -/
theorem size_eq_card (table : TypeTable) : table.size = table.structs.toFinset.card :=
  (List.toFinset_card_of_nodup table.nodup).symm

/-- The table grows by the number of names that are new to it. -/
theorem size_useAll (table : TypeTable) (names : List String) :
    (table.useAll names).size =
      table.size + (names.toFinset \ table.structs.toFinset).card := by
  have all : (table.useAll names).structs.toFinset =
      table.structs.toFinset ∪ (names.toFinset \ table.structs.toFinset) := by
    rw [Finset.union_sdiff_self_eq_union]
    ext name
    simp only [List.mem_toFinset, Finset.mem_union, mem_useAll]
  rw [size_eq_card, size_eq_card, all, Finset.card_union_of_disjoint Finset.disjoint_sdiff]

end TypeTable

/-- The struct type of the array that a statement declares. -/
def Node.structArray? : Node → Option String
  | assign (declarator (arrayType (structType name)) _ _ _) _ => some name
  | _ => none

/-- The struct types of the arrays that a source declares, in order. -/
def arrayStructs (source : List Node) : List String := source.filterMap Node.structArray?

theorem arrayStructs_append (source source' : List Node) :
    arrayStructs (source ++ source') = arrayStructs source ++ arrayStructs source' :=
  List.filterMap_append

end Source

/-! ### Struct types of entities -/

namespace Resource

/-- The struct types of the arrays of a codec: its layouts, its platforms and its patches. -/
def codecStructs : List String := ["CodecModInfo::File", "CodecModInfo::File", "KextPatch"]

/-- The struct types of the arrays of a vendor. -/
def VendorGroup.structs (group : VendorGroup) : List String :=
  (group.bundles.flatMap fun _ => codecStructs) ++ ["CodecModInfo"]

/-- The struct types of the arrays that an entity is compiled to, in order. -/
def Entity.structs : Entity → List String
  | lookupTable _ => ["CodecLookupInfo"]
  | kextTable _ => ["KernelPatcher::KextInfo"]
  | vendorGroups groups => groups.flatMap VendorGroup.structs ++ ["VendorModInfo"]
  | vendorGroup group => group.structs
  | codecBundle _ | codecInfo _ => codecStructs
  | codecFiles _ => ["CodecModInfo::File", "CodecModInfo::File"]
  | controllerTable entries => (entries.flatMap fun _ => ["KextPatch"]) ++ ["ControllerModInfo"]
  | controller _ | patches _ => ["KextPatch"]
  | lookupEntry _ | kextInfo _ | codecFile _ | patch _ | revisions _ => []

end Resource

namespace Compile

/-! ### The table in use -/

namespace TypeTables

/-- Notes the use of several struct types, one after the other. -/
def useAll (tables : TypeTables) (names : List String) : TypeTables := names.foldl use tables

theorem useAll_append (tables : TypeTables) (names names' : List String) :
    tables.useAll (names ++ names') = (tables.useAll names).useAll names' :=
  List.foldl_append

/-- A type that is noted twice is noted once. -/
theorem use_use (tables : TypeTables) (name : String) :
    (tables.use name).use name = tables.use name := by
  have again (table : TypeTable) : (table.use name).use name = table.use name :=
    TypeTable.use_of_mem (TypeTable.mem_use.mpr (.inr rfl))
  unfold use
  by_cases given : tables.usesGiven = true
  · simp [given, Function.comp_def, again]
  · simp [given, again]

/-- The types are all noted in the caller's table, if it is in use. -/
theorem useAll_of_usesGiven {given own : TypeTable} (names : List String) :
    useAll ⟨some given, own, true⟩ names = ⟨some (given.useAll names), own, true⟩ := by
  induction names generalizing given with
  | nil => rfl
  | cons name names ih => exact ih

/-- A caller's table that is not in use is left alone. -/
theorem useAll_of_not_usesGiven {given : Option TypeTable} {own : TypeTable}
    (names : List String) :
    useAll ⟨given, own, false⟩ names = ⟨given, own.useAll names, false⟩ := by
  induction names generalizing own with
  | nil => rfl
  | cons name names ih => exact ih

/-- A caller's table is in use if there is a type in it. -/
theorem useAll_start (given : TypeTable) (names : List String) :
    (start (some given)).useAll names =
      if given.size = 0 then ⟨some given, TypeTable.empty.useAll names, false⟩
      else ⟨some (given.useAll names), .empty, true⟩ := by
  by_cases empty : given.size = 0
  · rw [if_pos empty, ← useAll_of_not_usesGiven]
    simp [start, empty]
  · have held : (given.size != 0) = true := bne_iff_ne.mpr empty
    rw [if_neg empty, ← useAll_of_usesGiven]
    simp [start, held]

end TypeTables

/-! ### What runs note -/

variable {α : Type} {s t u : State} {structs structs' : List String}

/-- Between two states, arrays of the listed struct types are declared, in this order, and the same
types are noted. -/
structure Usage (s : State) (structs : List String) (t : State) : Prop where
  types : t.types = s.types.useAll structs
  arrays : Source.arrayStructs t.statements = Source.arrayStructs s.statements ++ structs

namespace Usage

theorem of_eq (types : t.types = s.types) (statements : t.statements = s.statements) :
    Usage s [] t :=
  ⟨types, by rw [statements, List.append_nil]⟩

theorem append (first : Usage s structs t) (second : Usage t structs' u) :
    Usage s (structs ++ structs') u where
  types := by rw [second.types, first.types, TypeTables.useAll_append]
  arrays := by rw [second.arrays, first.arrays, List.append_assoc]

/-- A statement that declares no array of a struct type adds none. -/
theorem add {statement : Node} (usage : Usage s structs t)
    (other : statement.structArray? = none) (types : u.types = t.types)
    (same : u.statements = t.statements ++ [statement]) : Usage s structs u where
  types := types.trans usage.types
  arrays := by
    have none : Source.arrayStructs [statement] = [] := by simp [Source.arrayStructs, other]
    rw [same, Source.arrayStructs_append, none, List.append_nil, usage.arrays]

/-- An array is declared, and its struct type is noted. -/
theorem array {statement : Node} {struct : String} (usage : Usage s structs t)
    (declares : statement.structArray? = some struct) (types : u.types = t.types.use struct)
    (same : u.statements = t.statements ++ [statement]) : Usage s (structs ++ [struct]) u where
  types := by
    rw [types, usage.types, TypeTables.useAll_append]
    rfl
  arrays := by
    have one : Source.arrayStructs [statement] = [struct] := by simp [Source.arrayStructs, declares]
    rw [same, Source.arrayStructs_append, one, usage.arrays, List.append_assoc]

/-- A heading declares no array. -/
theorem heading (s : State) (title : String) : Usage s [] (s.headed title) :=
  add (.of_eq rfl rfl) rfl rfl rfl

/-- A table notes its type after those of its rows. -/
theorem table {struct name : String} {rows : List Node} (usage : Usage s structs t)
    (run : Takes (declareTable struct name rows) t () u) : Usage s (structs ++ [struct]) u := by
  have same := takes_declareTable.mp run
  subst same
  have declared : Usage s (structs ++ [struct]) ((t.use struct).add
      (.declare (Source.structArray struct) name (.literal rows))) := usage.array rfl rfl rfl
  exact declared.add rfl rfl rfl

end Usage

/-- The runs of a step note the listed struct types. -/
def Uses (step : Step α) (structs : List String) : Prop :=
  ∀ ⦃s a t⦄, Takes step s a t → Usage s structs t

/-- Steps over a list note the types of all its elements. -/
theorem uses_mapM {β : Type} {step : α → Step β} {structs : α → List String}
    (each : ∀ a, Uses (step a) (structs a)) (as : List α) :
    Uses (as.mapM step) (as.flatMap structs) := by
  intro s rows t run
  have steps := takes_mapM.mp run
  clear run
  induction steps with
  | nil s => exact .of_eq rfl rfl
  | cons first _ ih => exact (each _ first).append ih

/-- Steps that note no type note none together. -/
theorem uses_mapM_nil {β : Type} {step : α → Step β} (each : ∀ a, Uses (step a) [])
    (as : List α) : Uses (as.mapM step) [] := by
  have all := uses_mapM each as
  rwa [List.flatMap_eq_nil_iff.mpr fun _ _ => rfl] at all

/-- The struct type of a table is noted after those of its rows. -/
theorem uses_table {struct table title : String} {as : List α} {step : α → Step Node}
    {structs : α → List String} (each : ∀ a, Uses (step a) (structs a)) :
    Uses (do
      openSection title
      let rows ← as.mapM step
      declareTable struct table rows) (as.flatMap structs ++ [struct]) := by
  intro s _ t run
  obtain ⟨rows, v, steps, declared⟩ := takes_table.mp run
  exact ((Usage.heading s title).append (uses_mapM each as steps)).table declared

/-! ### Rules without struct types -/

/-- An array of texts notes no struct type. -/
theorem uses_stringArray (stem : String) (strings : List String) :
    Uses (stringArray stem strings) [] := by
  intro s name t run
  obtain ⟨rfl, rfl⟩ := takes_stringArray.mp run
  exact Usage.add (.of_eq rfl rfl) rfl rfl rfl

/-- An array of bytes notes no struct type. -/
theorem uses_buffer (data : List UInt8) (stem : String) : Uses (buffer data stem) [] := by
  intro s name t run
  rcases takes_buffer.mp run with ⟨_, rfl⟩ | ⟨_, rfl, rfl⟩
  · exact .of_eq rfl rfl
  · exact Usage.add (.of_eq rfl rfl) rfl rfl rfl

theorem uses_lookupEntry (entry : LookupEntry) : Uses (lookupEntry entry) [] := by
  intro s row t run
  obtain ⟨tree, stored, rfl⟩ := takes_lookupEntry.mp run
  exact uses_stringArray _ _ stored

theorem uses_kextInfo (info : KextInfo) : Uses (kextInfo info) [] := by
  intro s row t run
  obtain ⟨paths, stored, rfl⟩ := takes_kextInfo.mp run
  exact uses_stringArray _ _ stored

theorem uses_revisions (codes : List Int) : Uses (revisions codes) [] := by
  intro s node t run
  rcases takes_revisions.mp run with ⟨_, _, rfl⟩ | ⟨_, _, rfl⟩
  · exact .of_eq rfl rfl
  · exact Usage.add (.of_eq rfl rfl) rfl rfl rfl

theorem uses_patch (p : Patch) : Uses (patch buffer p) [] := by
  intro s row t run
  obtain ⟨find, u, replace, place, stored, stored', _, _⟩ := takes_patch.mp run
  exact (uses_buffer _ _ stored).append (uses_buffer _ _ stored')

theorem uses_codecFile (files : Tree) (file : CodecFile) :
    Uses (codecFile buffer files file) [] := by
  intro s row t run
  cases found : files.read (s.directory.join (.ofString file.path)) with
  | ok bytes =>
    obtain ⟨content, stored, _⟩ := (takes_codecFile_of_ok found).mp run
    exact uses_buffer _ _ stored
  | error problem =>
    obtain ⟨_, rfl, _⟩ := (takes_codecFile_of_error found).mp run
    exact .of_eq rfl rfl

/-! ### Rules with struct types -/

/-- The lookup table notes its own type. -/
theorem uses_lookupTable (entries : List LookupEntry) :
    Uses (lookupTable entries) ["CodecLookupInfo"] := by
  have all : Uses (lookupTable entries) ((entries.flatMap fun _ => []) ++ ["CodecLookupInfo"]) :=
    uses_table uses_lookupEntry
  rwa [List.flatMap_eq_nil_iff.mpr fun _ _ => rfl, List.nil_append] at all

/-- The kext table notes its own type. -/
theorem uses_kextTable (table : KextTable) :
    Uses (kextTable table) ["KernelPatcher::KextInfo"] := by
  intro s _ t run
  obtain ⟨rows, v, steps, declared⟩ := takes_kextTable.mp run
  have headed : Usage s []
      ((s.headed "Kexts Section").register (notePlaces [] 0 table.entries)) :=
    (Usage.heading s "Kexts Section").append (.of_eq rfl rfl)
  have each (entry : Plist.Scalar × KextInfo) : Uses (kextInfo entry.2) [] := uses_kextInfo entry.2
  exact (headed.append (uses_mapM_nil each table.entries steps)).table declared

theorem uses_patches (list : List Patch) : Uses (patches buffer list) ["KextPatch"] := by
  intro s node t run
  obtain ⟨rows, u, steps, rfl, rfl⟩ := takes_patches.mp run
  exact (uses_mapM_nil uses_patch list steps).array rfl rfl rfl

/-- The type of both arrays is noted before the files are read. -/
theorem uses_codecFiles (files : Tree) (codec : CodecFiles) :
    Uses (codecFiles buffer files codec) ["CodecModInfo::File", "CodecModInfo::File"] := by
  intro s arrays t run
  obtain ⟨layouts, u, platforms, v, laid, platformed, rfl, rfl⟩ := takes_codecFiles.mp run
  have first := uses_mapM_nil (uses_codecFile files) _ laid
  have second := uses_mapM_nil (uses_codecFile files) _ platformed
  have read : Usage (s.use "CodecModInfo::File") [] v := first.append second
  constructor
  · -- the arrays are two, but to note their type again changes nothing
    have noted : v.types = s.types.use "CodecModInfo::File" := read.types
    have twice := TypeTables.use_use s.types "CodecModInfo::File"
    exact noted.trans twice.symm
  · have kept : Source.arrayStructs v.statements = Source.arrayStructs s.statements :=
      read.arrays.trans (List.append_nil _)
    have added : (v.addFileArrays layouts platforms).statements = v.statements ++ [_] ++ [_] := rfl
    rw [added, Source.arrayStructs_append, Source.arrayStructs_append, kept, List.append_assoc]
    rfl

/-- A codec notes the types of its files and patches. -/
theorem uses_codecInfo (files : Tree) (info : CodecInfo) :
    Uses (codecInfo buffer files info) codecStructs := by
  intro s row t run
  obtain ⟨layouts, platforms, u, patches, v, revisions, filed, patched, revised, _⟩ :=
    takes_codecInfo.mp run
  exact ((uses_codecFiles files _ filed).append (uses_patches _ patched)).append
    (uses_revisions _ revised)

/-- A bundle notes the types of its codec. -/
theorem uses_codecBundle (files : Tree) (bundle : CodecBundle) :
    Uses (codecBundle buffer files bundle) codecStructs := by
  intro s row t run
  have entered : Usage s [] { s with directory := bundle.path } := .of_eq rfl rfl
  exact entered.append (uses_codecInfo files bundle.info (takes_codecBundle.mp run))

/-- The bundles of a vendor note the types of their codecs, and then their own. -/
theorem uses_vendorGroup (files : Tree) (group : VendorGroup) :
    Uses (vendorGroup buffer files group) group.structs := by
  intro s row t run
  obtain ⟨rows, u, steps, rfl, rfl⟩ := takes_vendorGroup.mp run
  have headed := Usage.heading s ("Codec Section [" ++ group.vendor.label ++ "]")
  have bundles := headed.append (uses_mapM (uses_codecBundle files) _ steps)
  exact bundles.array rfl rfl rfl

/-- The table of vendors notes the types of its groups, and then its own. -/
theorem uses_vendorTable (files : Tree) (groups : List VendorGroup) :
    Uses (vendorTable buffer files groups)
      (groups.flatMap VendorGroup.structs ++ ["VendorModInfo"]) := by
  intro s _ t run
  obtain ⟨rows, v, steps, declared⟩ := takes_vendorTable.mp run
  have sections := uses_mapM (uses_vendorGroup files) groups steps
  have headed := sections.append (Usage.heading v "Vendor Section")
  rw [List.append_nil] at headed
  exact headed.table declared

/-- A controller notes the type of its patches. -/
theorem uses_controller (entry : Controller) : Uses (controller buffer entry) ["KextPatch"] := by
  intro s row t run
  obtain ⟨patches, u, revisions, patched, revised, _⟩ := takes_controller.mp run
  exact (uses_patches _ patched).append (uses_revisions _ revised)

/-- The table of controllers notes the types of its entries, and then its own. -/
theorem uses_controllerTable (entries : List Controller) :
    Uses (controllerTable buffer entries)
      ((entries.flatMap fun _ => ["KextPatch"]) ++ ["ControllerModInfo"]) :=
  uses_table uses_controller

/-! ### All entities -/

/-- An entity notes its types. -/
theorem uses_entity (files : Tree) (e : Entity) : Uses (entity files e) e.structs := by
  intro s nodes t run
  have single {step : Step Node} {structs : List String} (uses : Uses step structs)
      (run : Takes (do return [← step]) s nodes t) : Usage s structs t := by
    obtain ⟨node, taken, _⟩ := takes_singleton.mp run
    exact uses taken
  have nothing {step : Step Unit} {structs : List String} (uses : Uses step structs)
      (run : Takes (do step; return []) s nodes t) : Usage s structs t := by
    obtain ⟨taken, _⟩ := takes_nothing.mp run
    exact uses taken
  cases e with
  | lookupTable entries => exact nothing (uses_lookupTable entries) run
  | kextTable table => exact nothing (uses_kextTable table) run
  | vendorGroups groups => exact nothing (uses_vendorTable files groups) run
  | controllerTable entries => exact nothing (uses_controllerTable entries) run
  | codecFiles codec =>
    obtain ⟨⟨layouts, platforms⟩, u, filed, rest⟩ := takes_bind.mp run
    obtain ⟨rfl, rfl⟩ := takes_pure.mp rest
    exact uses_codecFiles files codec filed
  | lookupEntry entry => exact single (uses_lookupEntry entry) run
  | kextInfo info => exact single (uses_kextInfo info) run
  | vendorGroup group => exact single (uses_vendorGroup files group) run
  | codecBundle bundle => exact single (uses_codecBundle files bundle) run
  | codecInfo info => exact single (uses_codecInfo files info) run
  | codecFile file => exact single (uses_codecFile files file) run
  | controller entry => exact single (uses_controller entry) run
  | patches list => exact single (uses_patches list) run
  | patch p => exact single (uses_patch p) run
  | revisions codes => exact single (uses_revisions codes) run

/-- The struct types of entities that are compiled one after the other. -/
def structsOfVisits (list : List Visit) : List String :=
  list.flatMap fun visit => visit.entity.structs

/-- A run of visits notes the types of all entities in it. -/
theorem usage_visits {list : List Visit} {results : List (List Node)}
    (run : Takes (visits buffer list) s results t) : Usage s (structsOfVisits list) t :=
  have each (visit : Visit) :
      Uses (entityWith buffer visit.files visit.entity) visit.entity.structs :=
    uses_entity visit.files visit.entity
  uses_mapM each list run

/-- A caller's table with a type in it is the one in use: after a run it holds what it held before
and the struct types of the arrays that were declared, which are those of the entities, and it has
grown by the number of those that were new to it. An empty table is left alone, and the types are
noted in a table of the compiler's own. -/
theorem visits_note_structs {given : TypeTable} {list : List Visit} {results : List (List Node)}
    (begun : s.types = .start (some given)) (run : Takes (visits buffer list) s results t) :
    ∃ added, t.statements = s.statements ++ added ∧
      Source.arrayStructs added = structsOfVisits list ∧
      (given.size ≠ 0 → ∃ table, t.types.given = some table ∧
        (∀ name, table.contains name = true ↔
          given.contains name = true ∨ name ∈ Source.arrayStructs added) ∧
        table.size = given.size +
          ((Source.arrayStructs added).toFinset \ given.structs.toFinset).card) ∧
      (given.size = 0 → t.types.given = some given ∧
        ∀ name, t.types.own.contains name = true ↔ name ∈ Source.arrayStructs added) := by
  have grown : Extends s t := (frame_extends.mapM list fun visit _ =>
    extends_entityWith extends_buffer visit.files visit.entity).of_takes run
  obtain ⟨added, same⟩ := grown.statements
  obtain ⟨noted, arrays⟩ := usage_visits run
  have declared : Source.arrayStructs added = structsOfVisits list := by
    rw [← same, Source.arrayStructs_append] at arrays
    exact List.append_cancel_left arrays
  rw [begun, TypeTables.useAll_start, ← declared] at noted
  refine ⟨added, same.symm, declared, fun held => ?_, fun empty => ?_⟩
  · rw [if_neg held] at noted
    refine ⟨given.useAll (Source.arrayStructs added), by rw [noted], fun name => ?_,
      given.size_useAll _⟩
    simp only [TypeTable.contains_iff_mem, TypeTable.mem_useAll]
  · rw [if_pos empty] at noted
    refine ⟨by rw [noted], fun name => ?_⟩
    simp [noted, TypeTable.contains_iff_mem, TypeTable.mem_useAll, TypeTable.empty]

/-- A caller's table in which patches are known. -/
def patchTypes : TypeTable := { structs := ["KextPatch"] }

/-- A run over a lookup table and patches notes one new type. -/
theorem visits_note_structs_patches : ∃ results t table,
    Takes (visits buffer [⟨.empty, .lookupTable []⟩, ⟨.empty, .patches []⟩])
      (.start [] (.start (some patchTypes)) .empty) results t ∧
    t.types.given = some table ∧ table.contains "CodecLookupInfo" = true ∧ table.size = 2 := by
  have goes : stopOf (visits buffer [⟨.empty, .lookupTable []⟩, ⟨.empty, .patches []⟩])
      (.start [] (.start (some patchTypes)) .empty) = none := by decide +kernel
  obtain ⟨results, t, run⟩ := exists_takes_of_stopOf goes
  obtain ⟨added, _, declared, held, _⟩ := visits_note_structs rfl run
  obtain ⟨table, used, contains, size⟩ := held (by decide)
  rw [declared] at contains size
  exact ⟨results, t, table, run, used, (contains _).mpr (.inr (by decide)), size⟩

/-- An empty table of the caller stays empty, though a table of codecs is declared. -/
theorem visits_note_structs_empty : ∃ results t,
    Takes (visits buffer [⟨.empty, .lookupTable []⟩]) (.start [] (.start (some .empty)) .empty)
      results t ∧
    "CodecLookupInfo" ∈ Source.arrayStructs t.statements ∧ t.types.given = some .empty :=
  ⟨_, _, rfl, List.mem_cons_self, rfl⟩

end Compile

end CodecTables
