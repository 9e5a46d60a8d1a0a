import CodecTables.Proofs.Compile.Run
import CodecTables.Proofs.Resource.Bytes

/-!
# What compiling leaves alone

A relation between states that holds across each single change of a state holds across the run of
every entity, whether it stops or not (`Frame.entityWith`). Three relations of this kind are used:
the source, the known arrays and the counters only grow (`Extends`); the kexts change with a kext
table only; the directory changes with a codec bundle only. `frame_entity` puts them together.
-/

namespace CodecTables.Compile

open Files (Path Tree)
open Resource
open Source (Node)

variable {α β : Type}

/-- Whether it stops or not, a step leaves a state that is related to the state it began in. -/
def Keeps (R : State → State → Prop) (step : Step α) : Prop := ∀ s, R s (outcome step s).2

/-- A relation that holds across each change of a state, but for those that an entity makes by
storing bytes, to the kexts or to the directory. -/
structure Frame (R : State → State → Prop) : Prop where
  refl : ∀ s, R s s
  trans : ∀ {s t u}, R s t → R t u → R s u
  add : ∀ s {statement}, statement.isByteArray = false → R s (s.add statement)
  mint : ∀ s stem, R s (s.mint stem)
  use : ∀ s name, R s (s.use name)
  log : ∀ s records, R s { s with log := records }

/-- A relation that a step keeps holds across its runs that go through. -/
theorem Keeps.of_takes {R : State → State → Prop} {step : Step α} (keeps : Keeps R step)
    {s t : State} {a : α} (run : Takes step s a t) : R s t := by
  have related := keeps s
  rwa [show outcome step s = _ from run] at related

namespace Frame

variable {R : State → State → Prop}

theorem pure (frame : Frame R) (a : α) : Keeps R (pure a : Step α) := fun s => frame.refl s

theorem throw (frame : Frame R) (e : Stop) : Keeps R (throw e : Step α) := fun s => frame.refl s

theorem get (frame : Frame R) : Keeps R (get : Step State) := fun s => frame.refl s

theorem modify {f : State → State} (changes : ∀ s, R s (f s)) :
    Keeps R (modify f : Step Unit) := changes

/-- To emit a statement that declares no bytes is one of the changes. -/
theorem emit (frame : Frame R) {statement : Node} (other : statement.isByteArray = false) :
    Keeps R (emit statement) :=
  fun s => frame.add s other

/-- To take a name is one of the changes. -/
theorem fresh (frame : Frame R) (stem : String) : Keeps R (fresh stem) :=
  fun s => frame.mint s stem

theorem warn (frame : Frame R) (message : String) : Keeps R (warn message) :=
  fun s => frame.log s _

/-- A relation is kept by two steps if it is kept by each. -/
theorem bind (frame : Frame R) {step : Step α} {next : α → Step β} (first : Keeps R step)
    (second : ∀ a, Keeps R (next a)) : Keeps R (step >>= next) := by
  intro s
  rw [outcome_bind]
  have related := first s
  rcases run : outcome step s with ⟨_ | a, t⟩
  · rwa [run] at related
  · rw [run] at related
    exact frame.trans related (second a t)

/-- The type of an array of structs is used before the next step. -/
theorem structArray (frame : Frame R) {name : String} {next : Node → Step β}
    (second : Keeps R (next (Source.structArray name))) : Keeps R (structArray name >>= next) := by
  intro s
  rw [outcome_bind, show outcome (Compile.structArray name) s = (.ok _, s.use name) from rfl]
  exact frame.trans (frame.use s name) (second _)

/-- A relation is kept by steps over a list if it is kept by each of them. -/
theorem mapM (frame : Frame R) {step : α → Step β} (as : List α)
    (each : ∀ a ∈ as, Keeps R (step a)) : Keeps R (as.mapM step) := by
  induction as with
  | nil => exact frame.pure []
  | cons a as ih =>
    rw [List.mapM_cons]
    refine frame.bind (each a List.mem_cons_self) fun b => ?_
    exact frame.bind (ih fun a member => each a (List.mem_cons_of_mem _ member)) fun bs =>
      frame.pure (b :: bs)

/-! ### Rules -/

theorem openSection (frame : Frame R) (title : String) : Keeps R (openSection title) :=
  frame.emit rfl

/-- A table is declared within a frame. -/
theorem declareTable (frame : Frame R) (struct name : String) (rows : List Node) :
    Keeps R (declareTable struct name rows) :=
  frame.structArray <| frame.bind (frame.emit rfl) fun _ => frame.emit rfl

/-- An array of texts is declared within a frame. -/
theorem stringArray (frame : Frame R) (stem : String) (strings : List String) :
    Keeps R (stringArray stem strings) :=
  frame.bind (frame.fresh stem) fun name => frame.bind (frame.emit rfl) fun _ => frame.pure name

/-- Bytes are stored within a frame that allows for new arrays of bytes. -/
theorem buffer (frame : Frame R)
    (stores : ∀ s data stem, s.buffers.lookup (Data.Sha256.hexDigest data) = none →
      R s (s.store data stem)) (data : List UInt8) (stem : String) :
    Keeps R (buffer data stem) := by
  intro s
  obtain ⟨name, t, run⟩ := exists_takes_buffer data stem s
  rw [show outcome (Compile.buffer data stem) s = _ from run]
  rcases takes_buffer.mp run with ⟨_, rfl⟩ | ⟨unknown, _, rfl⟩
  · exact frame.refl _
  · exact stores s data stem unknown

/-- An entry of the lookup table is compiled within a frame. -/
theorem lookupEntry (frame : Frame R) (entry : LookupEntry) : Keeps R (lookupEntry entry) :=
  frame.bind (frame.stringArray _ _) fun _ => frame.pure _

/-- The lookup table is compiled within a frame. -/
theorem lookupTable (frame : Frame R) (entries : List LookupEntry) :
    Keeps R (lookupTable entries) :=
  frame.bind (frame.openSection _) fun _ =>
    frame.bind (frame.mapM entries fun entry _ => frame.lookupEntry entry) fun _ =>
      frame.declareTable _ _ _

theorem kextInfo (frame : Frame R) (info : KextInfo) : Keeps R (kextInfo info) :=
  frame.bind (frame.stringArray _ _) fun _ => frame.pure _

/-- The kext table is compiled within a frame that allows for its registration. -/
theorem kextTable (frame : Frame R) (register : ∀ s kexts, R s (s.register kexts))
    (table : KextTable) : Keeps R (kextTable table) := by
  unfold Compile.kextTable
  refine frame.bind (frame.openSection _) fun _ => ?_
  refine frame.bind ?_ fun _ => ?_
  · exact modify fun s => register s _
  refine frame.bind ?_ fun _ => ?_
  · refine frame.mapM _ fun entry _ => ?_
    exact frame.kextInfo entry.2
  exact frame.bind frame.get fun _ => frame.declareTable _ _ _

/-- Revisions are compiled within a frame. -/
theorem revisions (frame : Frame R) (codes : List Int) : Keeps R (revisions codes) := by
  unfold Compile.revisions
  split
  · exact frame.pure _
  · exact frame.bind (frame.fresh _) fun _ => frame.bind (frame.emit rfl) fun _ => frame.pure _

section Storage

variable {store : Storage}

/-- A patch is compiled within a frame that allows for the storage. -/
theorem patch (frame : Frame R) (stores : ∀ data stem, Keeps R (store data stem)) (p : Patch) :
    Keeps R (patch store p) := by
  unfold Compile.patch
  refine frame.bind (stores _ _) fun find => frame.bind (stores _ _) fun replace =>
    frame.bind frame.get fun state => ?_
  split
  · exact frame.throw _
  · exact frame.pure _

/-- Patches are compiled within a frame that allows for the storage. -/
theorem patches (frame : Frame R) (stores : ∀ data stem, Keeps R (store data stem))
    (list : List Patch) : Keeps R (patches store list) :=
  frame.bind (frame.mapM list fun p _ => frame.patch stores p) fun _ =>
    frame.bind (frame.fresh _) fun _ =>
      frame.structArray <| frame.bind (frame.emit rfl) fun _ => frame.pure _

/-- A file is compiled within such a frame, whether it can be read or not. -/
theorem codecFile (frame : Frame R) (stores : ∀ data stem, Keeps R (store data stem))
    (files : Tree) (file : CodecFile) : Keeps R (codecFile store files file) := by
  unfold Compile.codecFile
  refine frame.bind frame.get fun state => ?_
  dsimp only
  split
  · exact frame.bind (stores _ _) fun _ => frame.bind (frame.pure _) fun _ => frame.pure _
  · exact frame.bind (frame.throw _) fun _ => frame.pure _
  · exact frame.bind (frame.warn _) fun _ => frame.bind (frame.pure _) fun _ => frame.pure _

/-- The files of a codec are compiled within such a frame. -/
theorem codecFiles (frame : Frame R) (stores : ∀ data stem, Keeps R (store data stem))
    (files : Tree) (codec : CodecFiles) : Keeps R (codecFiles store files codec) :=
  frame.structArray <|
    frame.bind (frame.mapM _ fun file _ => frame.codecFile stores files file) fun _ =>
      frame.bind (frame.mapM _ fun file _ => frame.codecFile stores files file) fun _ =>
        frame.bind (frame.fresh _) fun _ => frame.bind (frame.fresh _) fun _ =>
          frame.bind (frame.emit rfl) fun _ => frame.bind (frame.emit rfl) fun _ => frame.pure _

/-- A codec is compiled within such a frame. -/
theorem codecInfo (frame : Frame R) (stores : ∀ data stem, Keeps R (store data stem))
    (files : Tree) (info : CodecInfo) : Keeps R (codecInfo store files info) :=
  frame.bind (frame.codecFiles stores files _) fun _ =>
    frame.bind (frame.patches stores _) fun _ =>
      frame.bind (frame.revisions _) fun _ => frame.pure _

/-- A controller is compiled within such a frame. -/
theorem controller (frame : Frame R) (stores : ∀ data stem, Keeps R (store data stem))
    (entry : Controller) : Keeps R (controller store entry) :=
  frame.bind (frame.patches stores _) fun _ => frame.bind (frame.revisions _) fun _ => frame.pure _

/-- The table of controllers is compiled within such a frame. -/
theorem controllerTable (frame : Frame R) (stores : ∀ data stem, Keeps R (store data stem))
    (entries : List Controller) : Keeps R (controllerTable store entries) :=
  frame.bind (frame.openSection _) fun _ =>
    frame.bind (frame.mapM entries fun entry _ => frame.controller stores entry) fun _ =>
      frame.declareTable _ _ _

/-- A bundle is compiled within such a frame that allows for its directory. -/
theorem codecBundle (frame : Frame R) (stores : ∀ data stem, Keeps R (store data stem))
    (files : Tree) (bundle : CodecBundle) (enter : ∀ s, R s { s with directory := bundle.path }) :
    Keeps R (codecBundle store files bundle) :=
  frame.bind (modify enter) fun _ => frame.codecInfo stores files _

/-- The bundles of a vendor are compiled within a frame that allows for their directories. -/
theorem vendorGroup (frame : Frame R) (stores : ∀ data stem, Keeps R (store data stem))
    (files : Tree) (group : VendorGroup)
    (enter : ∀ bundle ∈ group.bundles, ∀ s, R s { s with directory := bundle.path }) :
    Keeps R (vendorGroup store files group) := by
  refine frame.bind (frame.openSection _) fun _ => frame.bind (frame.mapM _ ?_) fun _ =>
    frame.bind (frame.fresh _) fun _ =>
      frame.structArray <| frame.bind (frame.emit rfl) fun _ => frame.pure _
  intro bundle member
  exact frame.codecBundle stores files bundle (enter bundle member)

/-- The table of vendors is compiled within a frame that allows for the directories of all
bundles. -/
theorem vendorTable (frame : Frame R) (stores : ∀ data stem, Keeps R (store data stem))
    (files : Tree) (groups : List VendorGroup)
    (enter : ∀ bundle ∈ groups.flatMap VendorGroup.bundles,
      ∀ s, R s { s with directory := bundle.path }) :
    Keeps R (vendorTable store files groups) := by
  refine frame.bind (frame.mapM _ ?_) fun _ =>
    frame.bind (frame.openSection _) fun _ => frame.declareTable _ _ _
  intro group member
  exact frame.vendorGroup stores files group fun bundle inside =>
    enter bundle (List.mem_flatMap.mpr ⟨group, member, inside⟩)

/-- A frame that allows the changes of the directory to the bundles of an entity, and those of the
kexts if it is a kext table, holds across the run of the entity. -/
theorem entityWith (frame : Frame R) (stores : ∀ data stem, Keeps R (store data stem))
    (files : Tree) (entity : Entity)
    (enter : ∀ bundle ∈ entity.bundles, ∀ s, R s { s with directory := bundle.path })
    (register : ∀ table, entity = .kextTable table → ∀ s kexts, R s (s.register kexts)) :
    Keeps R (entityWith store files entity) := by
  cases entity with
  | lookupTable entries => exact frame.bind (frame.lookupTable entries) fun _ => frame.pure _
  | lookupEntry entry => exact frame.bind (frame.lookupEntry entry) fun _ => frame.pure _
  | kextTable table =>
    exact frame.bind (frame.kextTable (register table rfl) table) fun _ => frame.pure _
  | kextInfo info => exact frame.bind (frame.kextInfo info) fun _ => frame.pure _
  | vendorGroups groups =>
    exact frame.bind (frame.vendorTable stores files groups enter) fun _ => frame.pure _
  | vendorGroup group =>
    exact frame.bind (frame.vendorGroup stores files group enter) fun _ => frame.pure _
  | codecBundle bundle =>
    have own := enter bundle (List.mem_singleton_self bundle)
    exact frame.bind (frame.codecBundle stores files bundle own) fun _ => frame.pure _
  | codecInfo info => exact frame.bind (frame.codecInfo stores files info) fun _ => frame.pure _
  | codecFiles codec => exact frame.bind (frame.codecFiles stores files codec) fun _ => frame.pure _
  | codecFile file => exact frame.bind (frame.codecFile stores files file) fun _ => frame.pure _
  | controllerTable entries =>
    exact frame.bind (frame.controllerTable stores entries) fun _ => frame.pure _
  | controller entry => exact frame.bind (frame.controller stores entry) fun _ => frame.pure _
  | patches list => exact frame.bind (frame.patches stores list) fun _ => frame.pure _
  | patch p => exact frame.bind (frame.patch stores p) fun _ => frame.pure _
  | revisions codes => exact frame.bind (frame.revisions codes) fun _ => frame.pure _

end Storage

end Frame

/-! ### The three relations -/

/-- The source has only been added to, known arrays are still known, and no counter went back. -/
structure Extends (s t : State) : Prop where
  statements : s.statements <+: t.statements
  buffers : ∀ {digest name}, s.buffers.lookup digest = some name →
    t.buffers.lookup digest = some name
  names : ∀ stem, s.names.index stem ≤ t.names.index stem
  kextTable : t.kextTable = s.kextTable

theorem Extends.refl (s : State) : Extends s s :=
  ⟨List.prefix_rfl, id, fun _ => Nat.le_refl _, rfl⟩

theorem Extends.trans {s t u : State} (first : Extends s t) (second : Extends t u) :
    Extends s u where
  statements := first.statements.trans second.statements
  buffers := fun known => second.buffers (first.buffers known)
  names := fun stem => Nat.le_trans (first.names stem) (second.names stem)
  kextTable := second.kextTable.trans first.kextTable

/-- The statements of a source are those of every source that extends it. -/
theorem Extends.mem {s t : State} (grown : Extends s t) {statement : Node}
    (member : statement ∈ s.statements) : statement ∈ t.statements :=
  grown.statements.subset member

theorem Extends.add (s : State) (statement : Node) : Extends s (s.add statement) :=
  { Extends.refl s with statements := List.prefix_append _ _ }

theorem Extends.mint (s : State) (stem : String) : Extends s (s.mint stem) :=
  { Extends.refl s with names := fun other => by simp [State.mint, NameSupply.index_advance] }

/-- Each change of a state extends it. -/
theorem frame_extends : Frame Extends where
  refl := .refl
  trans := .trans
  add s _ _ := .add s _
  mint := .mint
  use s _ := { Extends.refl s with }
  log s _ := { Extends.refl s with }

/-- Each change of a state leaves the kexts as they are. -/
theorem frame_kexts : Frame fun s t => t.kexts = s.kexts where
  refl _ := rfl
  trans first second := second.trans first
  add _ _ _ := rfl
  mint _ _ := rfl
  use _ _ := rfl
  log _ _ := rfl

/-- Each change of a state leaves the directory as it is. -/
theorem frame_directory : Frame fun s t => t.directory = s.directory where
  refl _ := rfl
  trans first second := second.trans first
  add _ _ _ := rfl
  mint _ _ := rfl
  use _ _ := rfl
  log _ _ := rfl

/-- Storing bytes forgets no known array. -/
theorem extends_buffer (data : List UInt8) (stem : String) : Keeps Extends (buffer data stem) := by
  refine frame_extends.buffer ?_ data stem
  intro s data stem unknown
  have held : Extends ((s.mint stem).add (Source.declareBytes data (s.nextName stem)))
      (s.store data stem) :=
    { Extends.refl _ with
      buffers := fun known => by
        simp only [State.store, State.hold, List.lookup_append, known, Option.some_or] }
  exact ((Extends.mint s stem).trans (.add _ _)).trans held

/-- Storing bytes leaves the kexts as they are. -/
theorem kexts_buffer (data : List UInt8) (stem : String) :
    Keeps (fun s t => t.kexts = s.kexts) (buffer data stem) :=
  frame_kexts.buffer (fun _ _ _ _ => rfl) data stem

/-- Storing bytes leaves the directory as it is. -/
theorem directory_buffer (data : List UInt8) (stem : String) :
    Keeps (fun s t => t.directory = s.directory) (buffer data stem) :=
  frame_directory.buffer (fun _ _ _ _ => rfl) data stem

/-- The run of an entity only adds to the source, whether it stops or not. -/
theorem extends_entityWith {store : Storage} (stores : ∀ data stem, Keeps Extends (store data stem))
    (files : Tree) (e : Entity) : Keeps Extends (entityWith store files e) :=
  frame_extends.entityWith stores files e (fun _ _ s => { Extends.refl s with })
    fun _ _ s _ => { Extends.refl s with }

/-! ### The run of an entity -/

/-- Each change of a state leaves the directory, or enters one of those listed. -/
theorem frame_enters (directories : List Path) :
    Frame fun s t => t.directory = s.directory ∨ t.directory ∈ directories where
  refl _ := .inl rfl
  trans first second := by
    rcases second with same | entered
    · rwa [same]
    · exact .inr entered
  add _ _ _ := .inl rfl
  mint _ _ := .inl rfl
  use _ _ := .inl rfl
  log _ _ := .inl rfl

/-- The run of an entity changes the kexts only if it is a kext table. -/
theorem kexts_entity (files : Tree) (e : Entity) (s : State) :
    (outcome (entity files e) s).2.kexts = s.kexts ∨ ∃ table, e = .kextTable table := by
  by_cases registers : ∃ table, e = .kextTable table
  · exact .inr registers
  have keeps : Keeps (fun s t => t.kexts = s.kexts) (entity files e) := by
    apply frame_kexts.entityWith kexts_buffer
    · exact fun _ _ _ => rfl
    · exact fun table own => absurd ⟨table, own⟩ registers
  exact .inl (keeps s)

/-- The run of an entity changes the directory only to that of one of its bundles. -/
theorem directory_entity (files : Tree) (e : Entity) (s : State) :
    (outcome (entity files e) s).2.directory = s.directory ∨
      ∃ bundle ∈ e.bundles, (outcome (entity files e) s).2.directory = bundle.path := by
  have frame := frame_enters (e.bundles.map (·.path))
  have stores := frame.buffer fun _ _ _ _ => .inl rfl
  have keeps := frame.entityWith stores files e
    (fun bundle member _ => .inr (List.mem_map_of_mem member)) fun _ _ _ _ => .inl rfl
  rcases keeps s with same | entered
  · exact .inl same
  · obtain ⟨bundle, member, path⟩ := List.mem_map.mp entered
    exact .inr ⟨bundle, member, path.symm⟩

/-- Whether the run of an entity stops or not, it only adds to the source; the kexts change with a
kext table only, and the directory becomes that of a bundle of the entity if it changes at all. -/
theorem frame_entity (files : Tree) (e : Entity) (s : State) :
    let t := (outcome (entity files e) s).2
    Extends s t ∧ (t.kexts = s.kexts ∨ ∃ table, e = .kextTable table) ∧
      (t.directory = s.directory ∨ ∃ bundle ∈ e.bundles, t.directory = bundle.path) :=
  ⟨extends_entityWith extends_buffer files e s, kexts_entity files e s, directory_entity files e s⟩

end CodecTables.Compile
