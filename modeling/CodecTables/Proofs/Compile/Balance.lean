import CodecTables.Proofs.Compile.Fresh
import CodecTables.Proofs.Compile.Rules
import CodecTables.Proofs.Compile.Visits

/-!
# Arrays that are used once

Only arrays of bytes are shared. The name of any other array is in one place: in a value of the
source, or in an expression that was given for an entity and is not in the source yet. So a run
declares such a name as often as it uses it, where the given expressions count as uses
(`Balances`).
-/

namespace CodecTables.Compile

open Files (Tree)
open Resource
open Source (Node)

variable {α : Type} {name : String} {s t u : State} {nodes nodes' : List Node}

/-- Between two states, a name is used once for each of its declarations, in the source or in given
expressions. -/
def Balance (name : String) (s : State) (nodes : List Node) (t : State) : Prop :=
  (Source.declaredNames t.statements).count name + (Source.usedNames s.statements).count name =
    (Source.declaredNames s.statements).count name + (Source.usedNames t.statements).count name +
      (Source.identifiersOf nodes).count name

namespace Balance

theorem of_eq (same : t.statements = s.statements) : Balance name s [] t := by
  simp [Balance, same, Source.identifiersOf]

theorem append (first : Balance name s nodes t) (second : Balance name t nodes' u) :
    Balance name s (nodes ++ nodes') u := by
  unfold Balance at *
  rw [Source.identifiersOf_append, List.count_append]
  omega

/-- Other expressions with as many uses of the name. -/
theorem exchange (balance : Balance name s nodes t)
    (same : (Source.identifiersOf nodes').count name = (Source.identifiersOf nodes).count name) :
    Balance name s nodes' t := by
  unfold Balance at *
  rw [same]
  exact balance

theorem of_statements (balance : Balance name s nodes t) (same : u.statements = t.statements) :
    Balance name s nodes u := by
  unfold Balance at *
  rw [same]
  exact balance

/-- A declaration takes up the expressions in its value, and is used once from then on. -/
theorem declare {rest : List Node} {statement : Node} {declared : String}
    (balance : Balance name s (nodes ++ rest) t)
    (names : statement.declares? = some declared)
    (uses : statement.uses = Source.identifiersOf nodes)
    (same : u.statements = t.statements ++ [statement]) :
    Balance name s (.identifier declared :: rest) u := by
  have names' : Source.declaredNames u.statements =
      Source.declaredNames t.statements ++ [declared] := by
    rw [same, Source.declaredNames, List.filterMap_append, List.filterMap_cons_some names]
    rfl
  have uses' : Source.usedNames u.statements =
      Source.usedNames t.statements ++ Source.identifiersOf nodes := by
    rw [same, Source.usedNames, List.flatMap_append, List.flatMap_singleton, uses]
    rfl
  have identifier : Source.identifiersOf (.identifier declared :: rest) =
      [declared] ++ Source.identifiersOf rest := rfl
  unfold Balance at *
  rw [Source.identifiersOf_append, List.count_append] at balance
  rw [names', uses', identifier, List.count_append, List.count_append, List.count_append]
  omega

/-- An array takes up the rows in it, and stands before the expressions that are left. -/
theorem arrayBefore {rows rest : List Node} (balance : Balance name s (rows ++ rest) t)
    (struct stem : String) (isConstant : Bool) :
    Balance name s (.identifier (t.nextName stem) :: rest)
      ((t.mint stem).add (.declareArray (.structType struct) (t.nextName stem) isConstant rows)) :=
  balance.declare rfl rfl rfl

/-- An array takes up all rows. -/
theorem array {rows : List Node} (balance : Balance name s rows t) (struct stem : String)
    (isConstant : Bool) :
    Balance name s [.identifier (t.nextName stem)]
      ((t.mint stem).add (.declareArray (.structType struct) (t.nextName stem) isConstant rows)) :=
  Balance.arrayBefore (by rwa [List.append_nil]) struct stem isConstant

/-- A declaration of another name that is not used yet. -/
theorem declare_other {statement : Node} {declared : String} (balance : Balance name s nodes t)
    (names : statement.declares? = some declared)
    (uses : statement.uses = Source.identifiersOf nodes)
    (other : declared ≠ name) (same : u.statements = t.statements ++ [statement]) :
    Balance name s [] u := by
  have all : Balance name s (nodes ++ []) t := by rwa [List.append_nil]
  refine (all.declare names uses same).exchange ?_
  have absent : List.count name [declared] = 0 :=
    List.count_eq_zero_of_not_mem fun member => other (List.mem_singleton.mp member).symm
  exact absent.symm

/-- A heading declares and uses nothing. -/
theorem heading (s : State) (title : String) : Balance name s [] (s.headed title) := by
  have names : Source.declaredNames (s.headed title).statements =
      Source.declaredNames s.statements := by
    simp [State.headed, State.add, Source.declaredNames, Node.declares?]
  have uses : Source.usedNames (s.headed title).statements = Source.usedNames s.statements := by
    simp [State.headed, State.add, Source.usedNames, Node.uses, Node.value?]
  unfold Balance
  rw [names, uses]
  rfl

end Balance

/-- The name is not that of a known array of bytes, or of the kext table. -/
structure Apart (name : String) (s : State) : Prop where
  buffers : ∀ digest, s.buffers.lookup digest ≠ some name
  kextTable : s.kextTable ≠ name

/-- At the start no array of bytes is known. -/
theorem Apart.start (statements : List Node) (types : TypeTables) (names : NameSupply)
    (other : defaultKextTable ≠ name) : Apart name (.start statements types names) where
  buffers digest := by simp [State.start]
  kextTable := other

theorem Apart.of_eq (apart : Apart name s) (buffers : t.buffers = s.buffers)
    (kextTable : t.kextTable = s.kextTable) : Apart name t where
  buffers digest := by
    rw [buffers]
    exact apart.buffers digest
  kextTable := by
    rw [kextTable]
    exact apart.kextTable

/-- The runs of a step keep a name in balance. -/
def Balances (name : String) (step : Step α) (nodes : α → List Node) : Prop :=
  ∀ ⦃s a t⦄, Apart name s → Takes step s a t → Apart name t ∧ Balance name s (nodes a) t

/-- Steps over a list balance if those over each element do. -/
theorem balances_mapM {step : α → Step Node}
    (each : ∀ a, Balances name (step a) fun row => [row]) (as : List α) :
    Balances name (as.mapM step) id := by
  intro s rows t apart run
  have steps := takes_mapM.mp run
  clear run
  induction steps with
  | nil s => exact ⟨apart, .of_eq rfl⟩
  | cons first _ ih =>
    obtain ⟨apart, balance⟩ := each _ apart first
    obtain ⟨apart, balance'⟩ := ih apart
    exact ⟨apart, balance.append balance'⟩

/-! ### Rules without bytes -/

theorem identifiersOf_map_string (strings : List String) :
    Source.identifiersOf (strings.map .string) = [] := by
  rw [Source.identifiersOf_eq_flatMap, List.flatMap_map, List.flatMap_eq_nil_iff]
  exact fun _ _ => rfl

/-- Numbers in hexadecimal hold no names. -/
theorem identifiersOf_map_hexOf (codes : List Int) (width : Int) :
    Source.identifiersOf (codes.map fun code => Source.hexOf code width) = [] := by
  rw [Source.identifiersOf_eq_flatMap, List.flatMap_map, List.flatMap_eq_nil_iff]
  exact fun _ _ => rfl

/-- An array of texts is given by its name. -/
theorem balances_stringArray (stem : String) (strings : List String) :
    Balances name (stringArray stem strings) fun array => [.identifier array] := by
  intro s array t apart run
  obtain ⟨rfl, rfl⟩ := takes_stringArray.mp run
  have begun : Balance name s (strings.map .string ++ []) s := by
    rw [List.append_nil]
    exact Balance.exchange (.of_eq rfl) (by rw [identifiersOf_map_string]; rfl)
  exact ⟨apart.of_eq rfl rfl, begun.declare rfl rfl rfl⟩

/-- An entry of the lookup table is given by its row. -/
theorem balances_lookupEntry (entry : LookupEntry) :
    Balances name (lookupEntry entry) fun row => [row] := by
  intro s row t apart run
  obtain ⟨tree, stored, rfl⟩ := takes_lookupEntry.mp run
  obtain ⟨apart, balance⟩ := balances_stringArray _ _ apart stored
  exact ⟨apart, balance.exchange rfl⟩

/-- Revisions are given by the name of their array, or by none. -/
theorem balances_revisions (codes : List Int) :
    Balances name (revisions codes) fun node => [node] := by
  intro s node t apart run
  rcases takes_revisions.mp run with ⟨_, rfl, rfl⟩ | ⟨_, rfl, rfl⟩
  · exact ⟨apart, Balance.exchange (.of_eq rfl) rfl⟩
  · have begun : Balance name s ((codes.map fun code => Source.hexOf code 32) ++ []) s := by
      rw [List.append_nil]
      exact Balance.exchange (.of_eq rfl) (by rw [identifiersOf_map_hexOf]; rfl)
    exact ⟨apart.of_eq rfl rfl, begun.declare rfl rfl rfl⟩

/-! ### Rules and a name of an array that is not of bytes -/

section Other

variable (other : NamesOther name)

include other

theorem NamesOther.ne_of_isPlain {text : String} (plain : NameSupply.isPlain text = true) :
    text ≠ name := by
  obtain ⟨stem, _, index, rfl⟩ := other
  exact NameSupply.ne_name_of_isPlain plain stem index

/-- The name of an array of bytes is not that of another array. -/
theorem NamesOther.ne_of_namesBytes {text : String} (bytes : NamesBytes text) : text ≠ name := by
  obtain ⟨stem, known, index, rfl⟩ := other
  rintro rfl
  exact not_namesBytes_name known index bytes

theorem balances_kextInfo (info : KextInfo) : Balances name (kextInfo info) fun row => [row] := by
  intro s row t apart run
  obtain ⟨paths, stored, rfl⟩ := takes_kextInfo.mp run
  obtain ⟨apart, balance⟩ := balances_stringArray _ _ apart stored
  have foreign : "KernelPatcher::KextInfo::Unloaded" ≠ name := other.ne_of_isPlain (by decide)
  refine ⟨apart, balance.exchange ?_⟩
  simp [Source.identifiersOf, Node.identifiers, List.count_cons, foreign]

/-- A table takes up its rows. -/
theorem balance_declareTable {struct table : String} {rows : List Node}
    (plain : NameSupply.isPlain table = true) (apart : Apart name t)
    (balance : Balance name s rows t) (run : Takes (declareTable struct table rows) t () u) :
    Apart name u ∧ Balance name s [] u := by
  have same := takes_declareTable.mp run
  subst same
  have rowed : Balance name s [] (t.add (.declare (Source.structArray struct) table
      (.literal rows))) :=
    balance.declare_other rfl rfl (other.ne_of_isPlain plain) rfl
  have sized : Balance name s [] ((t.add _).add (.declareConst .sizeType (sizeName table)
      (.integer rows.length))) :=
    rowed.declare_other rfl rfl (other.ne_of_isPlain (NameSupply.isPlain_sizeName table)) rfl
  exact ⟨apart.of_eq rfl rfl, sized.of_statements rfl⟩

/-- A table takes up the rows that come after its heading. -/
theorem balances_table {struct table title : String} {as : List α} {step : α → Step Node}
    (plain : NameSupply.isPlain table = true)
    (each : ∀ a, Balances name (step a) fun row => [row]) :
    Balances name (do
      openSection title
      let rows ← as.mapM step
      declareTable struct table rows) fun _ => [] := by
  intro s _ t apart run
  obtain ⟨rows, v, steps, declared⟩ := takes_table.mp run
  have headed : Apart name (s.headed title) := apart.of_eq rfl rfl
  obtain ⟨apart, balance⟩ := balances_mapM each as headed steps
  exact balance_declareTable other plain apart ((Balance.heading s title).append balance) declared

/-- The lookup table gives nothing, as it takes up its rows. -/
theorem balances_lookupTable (entries : List LookupEntry) :
    Balances name (lookupTable entries) fun _ => [] :=
  balances_table other NameSupply.isPlain_lookupTableName balances_lookupEntry

/-- The kext table is declared under a name of its own. -/
theorem balance_kextTable {table : KextTable} (plain : NameSupply.isPlain s.kextTable = true)
    (apart : Apart name s) (run : Takes (kextTable table) s () t) :
    Apart name t ∧ Balance name s [] t := by
  obtain ⟨rows, v, steps, declared⟩ := takes_kextTable.mp run
  have headed : Apart name
      ((s.headed "Kexts Section").register (notePlaces [] 0 table.entries)) := apart.of_eq rfl rfl
  have keeps : Keeps Extends (table.entries.mapM fun entry => kextInfo entry.2) :=
    frame_extends.mapM _ fun entry _ => frame_extends.kextInfo entry.2
  have kept : v.kextTable = s.kextTable := (keeps.of_takes steps).kextTable
  rw [kept] at declared
  have each (entry : Plist.Scalar × KextInfo) :
      Balances name (kextInfo entry.2) fun row => [row] := balances_kextInfo other entry.2
  obtain ⟨apart, balance⟩ := balances_mapM each table.entries headed steps
  have heading : Balance name s []
      ((s.headed "Kexts Section").register (notePlaces [] 0 table.entries)) :=
    (Balance.heading s "Kexts Section").of_statements rfl
  exact balance_declareTable other plain apart (heading.append balance) declared

/-! ### Rules with bytes -/

/-- Bytes are in an array of another name, which any number of expressions may use. -/
theorem balance_buffer {data : List UInt8} {stem found : String} (known : stem ∈ byteStems)
    (apart : Apart name s) (run : Takes (buffer data stem) s found t) :
    found ≠ name ∧ Apart name t ∧ Balance name s [] t := by
  rcases takes_buffer.mp run with ⟨held, rfl⟩ | ⟨_, rfl, rfl⟩
  · refine ⟨?_, apart, .of_eq rfl⟩
    rintro rfl
    exact apart.buffers _ held
  · have differs : s.nextName stem ≠ name := other.ne_of_namesBytes ⟨stem, known, _, rfl⟩
    have unused : (Source.declareBytes data (s.nextName stem)).uses = Source.identifiersOf [] :=
      Source.identifiers_bytesOf data
    refine ⟨differs, ⟨fun digest => ?_, apart.kextTable⟩,
      Balance.declare_other (.of_eq rfl) rfl unused differs rfl⟩
    rw [show (s.store data stem).buffers = s.buffers ++ [(_, s.nextName stem)] from rfl,
      List.lookup_append, Ne, Option.or_eq_some_iff]
    rintro (old | ⟨_, new⟩)
    · exact apart.buffers digest old
    · rw [List.lookup_cons] at new
      split at new
      · exact differs (Option.some.inj new)
      · cases new

theorem balances_patch (p : Patch) : Balances name (patch buffer p) fun row => [row] := by
  intro s row t apart run
  obtain ⟨find, u, replace, place, stored, stored', _, rfl⟩ := takes_patch.mp run
  obtain ⟨differs, apart, balance⟩ := balance_buffer other (by decide) apart stored
  obtain ⟨differs', apart, balance'⟩ := balance_buffer other (by decide) apart stored'
  refine ⟨apart, (balance.append balance').exchange ?_⟩
  simp [Source.identifiersOf, Node.identifiers, differs, differs', apart.kextTable]

/-- Patches are given by the name of their array. -/
theorem balances_patches (list : List Patch) :
    Balances name (patches buffer list) fun node => [node] := by
  intro s node t apart run
  obtain ⟨rows, u, steps, rfl, rfl⟩ := takes_patches.mp run
  obtain ⟨apart, balance⟩ := balances_mapM (balances_patch other) list apart steps
  exact ⟨apart.of_eq rfl rfl, (balance.array "KextPatch" "patches" true).of_statements rfl⟩

theorem balances_codecFile (files : Tree) (file : CodecFile) :
    Balances name (codecFile buffer files file) fun row => [row] := by
  intro s row t apart run
  cases found : files.read (s.directory.join (.ofString file.path)) with
  | ok bytes =>
    obtain ⟨content, stored, rfl⟩ := (takes_codecFile_of_ok found).mp run
    obtain ⟨differs, apart, balance⟩ := balance_buffer other (by decide) apart stored
    refine ⟨apart, balance.exchange ?_⟩
    simp [Source.identifiersOf, Node.identifiers, differs]
  | error problem =>
    obtain ⟨_, rfl, rfl⟩ := (takes_codecFile_of_error found).mp run
    exact ⟨apart.of_eq rfl rfl, Balance.exchange (.of_eq rfl) rfl⟩

/-- The rows of both kinds of files are there before the first array is declared. -/
theorem balances_codecFiles (files : Tree) (codec : CodecFiles) :
    Balances name (codecFiles buffer files codec) fun arrays => [arrays.1, arrays.2] := by
  intro s arrays t apart run
  obtain ⟨layouts, u, platforms, v, laid, platformed, rfl, rfl⟩ := takes_codecFiles.mp run
  have opened : Apart name (s.use "CodecModInfo::File") := apart.of_eq rfl rfl
  obtain ⟨apart, balance⟩ := balances_mapM (balances_codecFile other files) _ opened laid
  obtain ⟨apart, balance'⟩ := balances_mapM (balances_codecFile other files) _ apart platformed
  have both : Balance name s (layouts ++ platforms) v := balance.append balance'
  have one := both.arrayBefore "CodecModInfo::File" "layouts" true
  have turned : Balance name s (platforms ++ [.identifier (v.nextName "layouts")])
      ((v.mint "layouts").add _) := one.exchange (by
    simp [Source.identifiersOf, Source.identifiersOf_append, Node.identifiers, List.count_cons])
  have two := turned.arrayBefore "CodecModInfo::File" "platforms" true
  refine ⟨apart.of_eq rfl rfl, two.exchange ?_⟩
  exact (List.Perm.swap _ _ []).count_eq name

/-- A row uses the arrays of files, patches and revisions of its codec. -/
theorem balances_codecInfo (files : Tree) (info : CodecInfo) :
    Balances name (codecInfo buffer files info) fun row => [row] := by
  intro s row t apart run
  obtain ⟨layouts, platforms, u, patches, v, revisions, filed, patched, revised, rfl⟩ :=
    takes_codecInfo.mp run
  obtain ⟨apart, balance⟩ := balances_codecFiles other files _ apart filed
  obtain ⟨apart, balance'⟩ := balances_patches other _ apart patched
  obtain ⟨apart, balance''⟩ := balances_revisions _ apart revised
  refine ⟨apart, ((balance.append balance').append balance'').exchange ?_⟩
  simp [Source.identifiersOf, Node.identifiers, Source.hexOf]
  omega

/-- A bundle is given by its row. -/
theorem balances_codecBundle (files : Tree) (bundle : CodecBundle) :
    Balances name (codecBundle buffer files bundle) fun row => [row] := by
  intro s row t apart run
  have entered : Apart name { s with directory := bundle.path } := apart.of_eq rfl rfl
  obtain ⟨apart, balance⟩ :=
    balances_codecInfo other files bundle.info entered (takes_codecBundle.mp run)
  exact ⟨apart, balance⟩

/-- The bundles of a vendor are given by a row. -/
theorem balances_vendorGroup (files : Tree) (group : VendorGroup) :
    Balances name (vendorGroup buffer files group) fun row => [row] := by
  intro s row t apart run
  obtain ⟨rows, u, steps, rfl, rfl⟩ := takes_vendorGroup.mp run
  have headed : Apart name (s.headed ("Codec Section [" ++ group.vendor.label ++ "]")) :=
    apart.of_eq rfl rfl
  obtain ⟨apart, balance⟩ := balances_mapM (balances_codecBundle other files) _ headed steps
  have all := ((Balance.heading s _).append balance).array "CodecModInfo" "codecMod" false
  exact ⟨apart.of_eq rfl rfl, (all.of_statements rfl).exchange rfl⟩

/-- The table of vendors gives nothing, as it takes up its rows. -/
theorem balances_vendorTable (files : Tree) (groups : List VendorGroup) :
    Balances name (vendorTable buffer files groups) fun _ => [] := by
  intro s _ t apart run
  obtain ⟨rows, v, steps, declared⟩ := takes_vendorTable.mp run
  obtain ⟨apart, balance⟩ := balances_mapM (balances_vendorGroup other files) _ apart steps
  have headed : Apart name (v.headed "Vendor Section") := apart.of_eq rfl rfl
  have all := balance.append (Balance.heading v "Vendor Section")
  rw [List.append_nil] at all
  exact balance_declareTable other NameSupply.isPlain_vendorTableName headed all declared

/-- A controller is given by its row. -/
theorem balances_controller (entry : Controller) :
    Balances name (controller buffer entry) fun row => [row] := by
  intro s row t apart run
  obtain ⟨patches, u, revisions, patched, revised, rfl⟩ := takes_controller.mp run
  obtain ⟨apart, balance⟩ := balances_patches other _ apart patched
  obtain ⟨apart, balance'⟩ := balances_revisions _ apart revised
  have plain : NameSupply.isPlain entry.model.symbol = true := by
    cases entry.model <;> decide
  have foreign : entry.model.symbol ≠ name := other.ne_of_isPlain plain
  refine ⟨apart, (balance.append balance').exchange ?_⟩
  simp [Source.identifiersOf, Node.identifiers, Source.hexOf, foreign]
  omega

/-- The table of controllers gives nothing, as it takes up its rows. -/
theorem balances_controllerTable (entries : List Controller) :
    Balances name (controllerTable buffer entries) fun _ => [] :=
  balances_table other NameSupply.isPlain_controllerTableName (balances_controller other)

/-! ### All entities -/

/-- The run of an entity keeps a name in balance, where the expressions that it gives count as
uses. -/
theorem balance_entity {files : Tree} {e : Entity}
    (plain : NameSupply.isPlain s.kextTable = true) (apart : Apart name s)
    (run : Takes (entity files e) s nodes t) : Apart name t ∧ Balance name s nodes t := by
  have single {step : Step Node} (balances : Balances name step fun row => [row])
      (run : Takes (do return [← step]) s nodes t) : Apart name t ∧ Balance name s nodes t := by
    obtain ⟨node, taken, rfl⟩ := takes_singleton.mp run
    exact balances apart taken
  have nothing {step : Step Unit} (balances : Balances name step fun _ => [])
      (run : Takes (do step; return []) s nodes t) : Apart name t ∧ Balance name s nodes t := by
    obtain ⟨taken, rfl⟩ := takes_nothing.mp run
    exact balances apart taken
  cases e with
  | lookupTable entries => exact nothing (balances_lookupTable other entries) run
  | kextTable table =>
    obtain ⟨taken, rfl⟩ := takes_nothing.mp run
    exact balance_kextTable other plain apart taken
  | vendorGroups groups => exact nothing (balances_vendorTable other files groups) run
  | controllerTable entries => exact nothing (balances_controllerTable other entries) run
  | codecFiles codec =>
    obtain ⟨⟨layouts, platforms⟩, u, filed, rest⟩ := takes_bind.mp run
    obtain ⟨rfl, rfl⟩ := takes_pure.mp rest
    exact balances_codecFiles other files codec apart filed
  | lookupEntry entry => exact single (balances_lookupEntry entry) run
  | kextInfo info => exact single (balances_kextInfo other info) run
  | vendorGroup group => exact single (balances_vendorGroup other files group) run
  | codecBundle bundle => exact single (balances_codecBundle other files bundle) run
  | codecInfo info => exact single (balances_codecInfo other files info) run
  | codecFile file => exact single (balances_codecFile other files file) run
  | controller entry => exact single (balances_controller other entry) run
  | patches list => exact single (balances_patches other list) run
  | patch p => exact single (balances_patch other p) run
  | revisions codes => exact single (balances_revisions codes) run

/-- A run of visits balances with all that is given in it. -/
theorem balance_visits {list : List Visit} {results : List (List Node)}
    (plain : NameSupply.isPlain s.kextTable = true) (apart : Apart name s)
    (run : Takes (visits buffer list) s results t) : Balance name s results.flatten t := by
  have steps := takes_mapM.mp run
  clear run
  induction steps with
  | nil s => exact .of_eq rfl
  | @cons s u t visit nodes rest results first _ ih =>
    have kept : u.kextTable = s.kextTable :=
      ((extends_entityWith extends_buffer _ _).of_takes first).kextTable
    obtain ⟨apart, balance⟩ := balance_entity other plain apart first
    exact balance.append (ih (kept ▸ plain) apart)

end Other

end CodecTables.Compile
