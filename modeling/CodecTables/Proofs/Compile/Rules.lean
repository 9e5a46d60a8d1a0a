import CodecTables.Proofs.Compile.Run

/-!
# Runs of rules

A rule goes through if its parts do, one after the other. Each lemma says for one rule which runs
of its parts make a run of it, what it gives and what it adds to the state that they lead to.
-/

namespace CodecTables.Compile

open Files (Path Problem Tree)
open Resource
open Source (Node)

variable {α : Type}

/-! ### Tables -/

/-- A table is declared with the number of its rows. -/
theorem takes_declareTable {struct name : String} {rows : List Node} {s t : State} {u : Unit} :
    Takes (declareTable struct name rows) s u t ↔
      t = ((s.use struct).add (.declare (Source.structArray struct) name (.literal rows))).add
        (.declareConst .sizeType (sizeName name) (.integer rows.length)) := by
  unfold declareTable
  simp only [takes_bind, takes_structArray, takes_emit]
  constructor
  · rintro ⟨_, _, ⟨rfl, rfl⟩, _, _, rfl, rfl⟩
    rfl
  · rintro rfl
    exact ⟨_, _, ⟨rfl, rfl⟩, (), _, rfl, rfl⟩

/-- A table has a heading, its rows and its declarations. -/
theorem takes_table {struct name title : String} {as : List α} {step : α → Step Node} {s t : State}
    {u : Unit} :
    Takes (do
      openSection title
      let rows ← as.mapM step
      declareTable struct name rows) s u t ↔
      ∃ rows v, Takes (as.mapM step) (s.headed title) rows v ∧
        Takes (declareTable struct name rows) v () t := by
  simp only [takes_bind, takes_openSection]
  constructor
  · rintro ⟨_, _, rfl, rows, v, steps, declared⟩
    exact ⟨rows, v, steps, declared⟩
  · rintro ⟨rows, v, steps, declared⟩
    exact ⟨(), _, rfl, rows, v, steps, declared⟩

/-- The rows of a kext table are compiled when its own kexts are known. -/
theorem takes_kextTable {table : KextTable} {s t : State} {u : Unit} :
    Takes (kextTable table) s u t ↔
      ∃ rows v, Takes (table.entries.mapM fun entry => kextInfo entry.2)
          ((s.headed "Kexts Section").register (notePlaces [] 0 table.entries)) rows v ∧
        Takes (declareTable "KernelPatcher::KextInfo" v.kextTable rows) v () t := by
  unfold kextTable
  simp only [takes_bind, takes_openSection, takes_modify, takes_get]
  constructor
  · rintro ⟨_, _, rfl, _, opened, rfl, rows, v, steps, _, _, ⟨rfl, rfl⟩, declared⟩
    exact ⟨rows, _, steps, declared⟩
  · rintro ⟨rows, v, steps, declared⟩
    exact ⟨(), _, rfl, (), _, rfl, rows, v, steps, v, v, ⟨rfl, rfl⟩, declared⟩

/-- An entry of the lookup table is compiled to its tree and a row that names it. -/
theorem takes_lookupEntry {entry : LookupEntry} {row : Node} {s t : State} :
    Takes (lookupEntry entry) s row t ↔ ∃ tree, Takes (stringArray "tree" entry.tree) s tree t ∧
      row = .literal
        [.identifier tree, .integer entry.tree.length, .integer entry.controllerCount,
          .boolean entry.detect] := by
  unfold lookupEntry
  simp only [takes_bind, takes_pure]
  constructor
  · rintro ⟨tree, _, stored, rfl, rfl⟩
    exact ⟨tree, stored, rfl⟩
  · rintro ⟨tree, stored, rfl⟩
    exact ⟨tree, t, stored, rfl, rfl⟩

theorem takes_kextInfo {info : KextInfo} {row : Node} {s t : State} :
    Takes (kextInfo info) s row t ↔ ∃ paths, Takes (stringArray "kextPath" info.paths) s paths t ∧
      row = .literal
        [.string info.identifier, .identifier paths, .integer info.paths.length,
          .literal [.boolean false, .boolean info.reloadable], .literal [.boolean info.detect],
          .identifier "KernelPatcher::KextInfo::Unloaded"] := by
  unfold kextInfo
  simp only [takes_bind, takes_pure]
  constructor
  · rintro ⟨paths, _, stored, rfl, rfl⟩
    exact ⟨paths, stored, rfl⟩
  · rintro ⟨paths, stored, rfl⟩
    exact ⟨paths, t, stored, rfl, rfl⟩

/-- There is no array for no revisions. -/
theorem takes_revisions {codes : List Int} {node : Node} {s t : State} :
    Takes (revisions codes) s node t ↔ (codes = [] ∧ node = .nullPointer ∧ t = s) ∨
      (codes ≠ [] ∧ node = .identifier (s.nextName "revisions") ∧
        t = (s.mint "revisions").add (.declareArray Source.uint32 (s.nextName "revisions") true
          (codes.map fun code => Source.hexOf code 32))) := by
  unfold revisions
  cases codes with
  | nil =>
    rw [List.isEmpty_nil, if_pos rfl, takes_pure]
    simp
  | cons code rest =>
    rw [List.isEmpty_cons, if_neg Bool.false_ne_true]
    simp only [takes_bind, takes_fresh, takes_emit, takes_pure]
    constructor
    · rintro ⟨_, _, ⟨rfl, rfl⟩, _, _, rfl, rfl, rfl⟩
      exact .inr ⟨List.cons_ne_nil _ _, rfl, rfl⟩
    · rintro (⟨empty, _⟩ | ⟨_, rfl, rfl⟩)
      · cases empty
      · exact ⟨_, _, ⟨rfl, rfl⟩, (), _, rfl, rfl, rfl⟩

/-! ### Entities with bytes -/

section Storage

variable {store : Storage} {files : Tree} {row : Node} {s t : State}

/-- The buffers of a patch are stored before its kext is looked for. -/
theorem takes_patch {p : Patch} :
    Takes (patch store p) s row t ↔ ∃ find u replace, ∃ place : Nat,
      Takes (store p.find "patchBuf") s find u ∧ Takes (store p.replace "patchBuf") u replace t ∧
      Plist.Dictionary.find? t.kexts p.executable = some place ∧
      row = .literal
        [.literal
          [.lookup (.addressOf (.identifier t.kextTable)) (.integer place), .identifier find,
            .identifier replace, .integer p.size, .integer p.count],
          .integer p.minKernel, .integer p.maxKernel] := by
  unfold patch
  simp only [takes_bind, takes_get]
  constructor
  · rintro ⟨find, u, stored, replace, _, stored', _, state, ⟨rfl, rfl⟩, run⟩
    cases known : Plist.Dictionary.find? state.kexts p.executable with
    | none =>
      rw [known] at run
      exact absurd run not_takes_throw
    | some place =>
      rw [known] at run
      obtain ⟨rfl, rfl⟩ := takes_pure.mp run
      exact ⟨find, u, replace, place, stored, stored', known, rfl⟩
  · rintro ⟨find, u, replace, place, stored, stored', known, rfl⟩
    refine ⟨find, u, stored, replace, t, stored', t, t, ⟨rfl, rfl⟩, ?_⟩
    rw [known]
    exact takes_pure.mpr ⟨rfl, rfl⟩

/-- The bytes of a file that can be read are stored, and their number is its size. -/
theorem takes_codecFile_of_ok {file : CodecFile} {bytes : List UInt8}
    (found : files.read (s.directory.join (.ofString file.path)) = .ok bytes) :
    Takes (codecFile store files file) s row t ↔ ∃ name, Takes (store bytes "file") s name t ∧
      row = .literal
        [.identifier name, .integer bytes.length, .integer file.minKernel, .integer file.maxKernel,
          .integer file.id] := by
  unfold codecFile
  simp only [takes_bind, takes_get]
  constructor
  · rintro ⟨_, state, ⟨rfl, rfl⟩, run⟩
    rw [found] at run
    obtain ⟨name, _, stored, run⟩ := takes_bind.mp run
    simp only [takes_bind, takes_pure] at run
    obtain ⟨_, _, ⟨rfl, rfl⟩, rfl, rfl⟩ := run
    exact ⟨name, stored, rfl⟩
  · rintro ⟨name, stored, rfl⟩
    refine ⟨s, s, ⟨rfl, rfl⟩, ?_⟩
    rw [found]
    refine takes_bind.mpr ⟨name, t, stored, ?_⟩
    simp only [takes_bind, takes_pure]
    exact ⟨_, _, ⟨rfl, rfl⟩, rfl, rfl⟩

/-- A path that is refused for the character U+0000 stops the rule, and leaves the state as it
was. -/
theorem outcome_codecFile_of_nulInPath {file : CodecFile}
    (found : files.read (s.directory.join (.ofString file.path)) = .error .nulInPath) :
    outcome (codecFile store files file) s = (.error .nulInPath, s) := by
  unfold codecFile
  rw [outcome_bind, outcome_get]
  dsimp only
  rw [found]
  rfl

/-- A file that cannot be read is warned of, unless its path holds the character U+0000. -/
theorem takes_codecFile_of_error {file : CodecFile} {problem : Problem}
    (found : files.read (s.directory.join (.ofString file.path)) = .error problem) :
    Takes (codecFile store files file) s row t ↔ problem ≠ .nulInPath ∧
      t = { s with log := s.log ++ [⟨.warning, .compiler,
        "Failed to read the requested file " ++ Text.quoted file.path ++ " in " ++
          s.directory.text ++ ": " ++ problem.reason⟩] } ∧
      row = .literal
        [.nullPointer, .integer 0, .integer file.minKernel, .integer file.maxKernel,
          .integer file.id] := by
  unfold codecFile
  simp only [takes_bind, takes_get]
  constructor
  · rintro ⟨_, state, ⟨rfl, rfl⟩, run⟩
    rw [found] at run
    cases problem with
    | nulInPath =>
      obtain ⟨_, _, impossible, _⟩ := takes_bind.mp run
      exact absurd impossible not_takes_throw
    | _ =>
      simp only [takes_bind, takes_warn, takes_pure] at run
      obtain ⟨_, _, rfl, _, _, ⟨rfl, rfl⟩, rfl, rfl⟩ := run
      exact ⟨by decide, rfl, rfl⟩
  · rintro ⟨other, rfl, rfl⟩
    refine ⟨s, s, ⟨rfl, rfl⟩, ?_⟩
    rw [found]
    cases problem with
    | nulInPath => exact absurd rfl other
    | _ =>
      simp only [takes_bind, takes_warn, takes_pure]
      exact ⟨(), _, rfl, _, _, ⟨rfl, rfl⟩, rfl, rfl⟩

/-- The rows of patches come before the array of them. -/
theorem takes_patches {list : List Patch} {node : Node} :
    Takes (patches store list) s node t ↔ ∃ rows u, Takes (list.mapM (patch store)) s rows u ∧
      node = .identifier (u.nextName "patches") ∧
      t = ((u.mint "patches").add
        (.declareArray (.structType "KextPatch") (u.nextName "patches") true rows)).use
          "KextPatch" := by
  unfold patches
  simp only [takes_bind, takes_fresh, takes_structArray, takes_emit, takes_pure]
  constructor
  · rintro ⟨rows, u, steps, _, _, ⟨rfl, rfl⟩, _, _, ⟨rfl, rfl⟩, _, _, rfl, rfl, rfl⟩
    exact ⟨rows, u, steps, rfl, rfl⟩
  · rintro ⟨rows, u, steps, rfl, rfl⟩
    exact ⟨rows, u, steps, _, _, ⟨rfl, rfl⟩, _, _, ⟨rfl, rfl⟩, (), _, rfl, rfl, rfl⟩

/-- The state after the arrays of the layouts and the platforms are declared. -/
def State.addFileArrays (s : State) (layouts platforms : List Node) : State :=
  let t := (s.mint "layouts").add
    (.declareArray (.structType "CodecModInfo::File") (s.nextName "layouts") true layouts)
  (t.mint "platforms").add
    (.declareArray (.structType "CodecModInfo::File") (t.nextName "platforms") true platforms)

/-- Both kinds of files are read before their arrays are declared. -/
theorem takes_codecFiles {codec : CodecFiles} {arrays : Node × Node} :
    Takes (codecFiles store files codec) s arrays t ↔
      ∃ layouts u platforms v,
        Takes (codec.layouts.mapM (codecFile store files)) (s.use "CodecModInfo::File") layouts u ∧
        Takes (codec.platforms.mapM (codecFile store files)) u platforms v ∧
        arrays = (.identifier (v.nextName "layouts"),
          .identifier ((v.mint "layouts").nextName "platforms")) ∧
        t = v.addFileArrays layouts platforms := by
  unfold codecFiles
  simp only [takes_bind, takes_structArray, takes_fresh, takes_emit, takes_pure]
  constructor
  · rintro ⟨_, _, ⟨rfl, rfl⟩, layouts, u, laid, platforms, v, platformed, _, _, ⟨rfl, rfl⟩,
      _, _, ⟨rfl, rfl⟩, _, _, rfl, _, _, rfl, rfl, rfl⟩
    exact ⟨layouts, u, platforms, v, laid, platformed, rfl, rfl⟩
  · rintro ⟨layouts, u, platforms, v, laid, platformed, rfl, rfl⟩
    exact ⟨_, _, ⟨rfl, rfl⟩, layouts, u, laid, platforms, v, platformed, _, _, ⟨rfl, rfl⟩,
      _, _, ⟨rfl, rfl⟩, (), _, rfl, (), _, rfl, rfl, rfl⟩

/-- A codec is compiled to its files, its patches and its revisions, and a row that names them. -/
theorem takes_codecInfo {info : CodecInfo} :
    Takes (codecInfo store files info) s row t ↔
      ∃ layouts platforms u patchArray v revisionArray,
        Takes (codecFiles store files info.files) s (layouts, platforms) u ∧
        Takes (patches store info.patches) u patchArray v ∧
        Takes (revisions info.revisions) v revisionArray t ∧
        row = .literal
          [.string info.codecName, Source.hexOf info.id 16,
            revisionArray, .integer info.revisions.length,
            platforms, .integer info.files.platforms.length,
            layouts, .integer info.files.layouts.length,
            patchArray, .integer info.patches.length] := by
  unfold codecInfo
  rw [takes_bind]
  constructor
  · rintro ⟨⟨layouts, platforms⟩, u, filed, run⟩
    simp only [takes_bind, takes_pure] at run
    obtain ⟨patchArray, v, patched, revisionArray, _, revised, rfl, rfl⟩ := run
    exact ⟨layouts, platforms, u, patchArray, v, revisionArray, filed, patched, revised, rfl⟩
  · rintro ⟨layouts, platforms, u, patchArray, v, revisionArray, filed, patched, revised, rfl⟩
    refine ⟨(layouts, platforms), u, filed, ?_⟩
    simp only [takes_bind, takes_pure]
    exact ⟨patchArray, v, patched, revisionArray, t, revised, rfl, rfl⟩

/-- The files of a bundle are looked for in its directory. -/
theorem takes_codecBundle {bundle : CodecBundle} :
    Takes (codecBundle store files bundle) s row t ↔
      Takes (codecInfo store files bundle.info) { s with directory := bundle.path } row t := by
  unfold codecBundle
  simp only [takes_bind, takes_modify]
  constructor
  · rintro ⟨_, _, rfl, run⟩
    exact run
  · exact fun run => ⟨(), _, rfl, run⟩

/-- The array of the codecs of a vendor comes after a heading and the codecs. -/
theorem takes_vendorGroup {group : VendorGroup} :
    Takes (vendorGroup store files group) s row t ↔
      ∃ rows u, Takes (group.bundles.mapM (codecBundle store files))
          (s.headed ("Codec Section [" ++ group.vendor.label ++ "]")) rows u ∧
        row = .literal
          [.string group.vendor.label, Source.hexOf group.vendor.id 16,
            .identifier (u.nextName "codecMod"), .integer group.bundles.length] ∧
        t = ((u.mint "codecMod").add (.declareArray (.structType "CodecModInfo")
          (u.nextName "codecMod") false rows)).use "CodecModInfo" := by
  unfold vendorGroup
  simp only [takes_bind, takes_openSection, takes_fresh, takes_structArray, takes_emit, takes_pure]
  constructor
  · rintro ⟨_, _, rfl, rows, u, steps, _, _, ⟨rfl, rfl⟩, _, _, ⟨rfl, rfl⟩, _, _, rfl, rfl, rfl⟩
    exact ⟨rows, u, steps, rfl, rfl⟩
  · rintro ⟨rows, u, steps, rfl, rfl⟩
    exact ⟨(), _, rfl, rows, u, steps, _, _, ⟨rfl, rfl⟩, _, _, ⟨rfl, rfl⟩, (), _, rfl, rfl, rfl⟩

/-- The heading of the vendors comes after their groups. -/
theorem takes_vendorTable {groups : List VendorGroup} {u : Unit} :
    Takes (vendorTable store files groups) s u t ↔
      ∃ rows v, Takes (groups.mapM (vendorGroup store files)) s rows v ∧
        Takes (declareTable "VendorModInfo" vendorTableName rows)
          (v.headed "Vendor Section") () t := by
  unfold vendorTable
  simp only [takes_bind, takes_openSection]
  constructor
  · rintro ⟨rows, v, steps, _, _, rfl, declared⟩
    exact ⟨rows, v, steps, declared⟩
  · rintro ⟨rows, v, steps, declared⟩
    exact ⟨rows, v, steps, (), _, rfl, declared⟩

/-- A controller is compiled to its patches and its revisions, and a row that names them. -/
theorem takes_controller {entry : Controller} :
    Takes (controller store entry) s row t ↔ ∃ patchArray u revisionArray,
      Takes (patches store entry.patches) s patchArray u ∧
      Takes (revisions entry.revisions) u revisionArray t ∧
      row = .literal
        [.string entry.description, Source.hexOf entry.vendor.id 32, Source.hexOf entry.device 32,
          revisionArray, .integer entry.revisions.length, .integer entry.platform,
          .identifier entry.model.symbol, patchArray, .integer entry.patches.length] := by
  unfold controller
  simp only [takes_bind, takes_pure]
  constructor
  · rintro ⟨patchArray, u, patched, revisionArray, _, revised, rfl, rfl⟩
    exact ⟨patchArray, u, revisionArray, patched, revised, rfl⟩
  · rintro ⟨patchArray, u, revisionArray, patched, revised, rfl⟩
    exact ⟨patchArray, u, patched, revisionArray, t, revised, rfl, rfl⟩

end Storage

/-! ### Entities -/

theorem takes_singleton {step : Step Node} {s t : State} {nodes : List Node} :
    Takes (do return [← step]) s nodes t ↔ ∃ node, Takes step s node t ∧ nodes = [node] := by
  simp only [takes_bind, takes_pure]
  constructor
  · rintro ⟨node, _, run, rfl, rfl⟩
    exact ⟨node, run, rfl⟩
  · rintro ⟨node, run, rfl⟩
    exact ⟨node, t, run, rfl, rfl⟩

theorem takes_nothing {step : Step Unit} {s t : State} {nodes : List Node} :
    Takes (do step; return []) s nodes t ↔ Takes step s () t ∧ nodes = [] := by
  simp only [takes_bind, takes_pure]
  constructor
  · rintro ⟨_, _, run, rfl, rfl⟩
    exact ⟨run, rfl⟩
  · rintro ⟨run, rfl⟩
    exact ⟨(), t, run, rfl, rfl⟩

end CodecTables.Compile
