import CodecTables.Proofs.Compile.Obstacle
import CodecTables.Proofs.Files.Characters
import CodecTables.Proofs.Generate.Build

/-!
# Patches of unknown kexts

A source cannot be built if one of its patches is for a kext that the kext table does not hold, and
the first such patch is the one that is reported. Without such a patch it is built, whatever codec
files are missing (`outcome_build_of_nulFree`).
-/

namespace CodecTables

open Compile (Stop Settles Knows notePlaces stopOf)
open Files (Path Tree)
open Plist (Scalar)
open Resource
open Source (Node)

namespace Resource

/-- The text is a name or an identifier of the table. -/
def KextTable.knows (table : KextTable) (text : String) : Bool :=
  table.entries.any fun entry => entry.1 == .string text || entry.2.identifier == text

/-- The text is no name and no identifier of the table. -/
def KextTable.Lacks (table : KextTable) (text : String) : Prop :=
  (∀ entry ∈ table.entries, entry.1 ≠ .string text) ∧
    ∀ entry ∈ table.entries, entry.2.identifier ≠ text

theorem KextTable.knows_eq_false (table : KextTable) (text : String) :
    table.knows text = false ↔ table.Lacks text := by
  rw [knows, List.any_eq_false, Lacks, ← forall₂_and]
  refine forall₂_congr fun entry _ => ?_
  rw [Bool.or_eq_true, beq_iff_eq, beq_iff_eq, not_or]

/-- The patches of the bundles of groups. -/
def VendorGroup.patches (groups : List VendorGroup) : List Patch :=
  groups.flatMap fun group => group.bundles.flatMap fun bundle => bundle.info.patches

/-- The patches of groups and then of controllers, in their order. -/
def allPatches (groups : List VendorGroup) (controllers : List Controller) : List Patch :=
  VendorGroup.patches groups ++ controllers.flatMap Controller.patches

/-- The paths of a bundle and of its files do not hold the character U+0000. -/
def CodecBundle.NulFree (bundle : CodecBundle) : Prop :=
  '\x00' ∉ bundle.path.text.toList ∧
    ∀ file ∈ bundle.info.files.layouts ++ bundle.info.files.platforms, '\x00' ∉ file.path.toList

/-- The first find in lists one after the other is the first of their first finds. -/
theorem findSome?_flatMap {α β γ : Type} (f : β → Option γ) (g : α → List β) (as : List α) :
    (as.flatMap g).findSome? f = as.findSome? fun a => (g a).findSome? f := by
  induction as with
  | nil => rfl
  | cons a as ih =>
    rw [List.flatMap_cons, List.findSome?_append, ih, List.findSome?_cons]
    cases (g a).findSome? f <;> rfl

theorem findSome?_congr {α β : Type} {f g : α → Option β} {as : List α}
    (same : ∀ a ∈ as, f a = g a) : as.findSome? f = as.findSome? g := by
  induction as with
  | nil => rfl
  | cons a as ih =>
    rw [List.findSome?_cons, List.findSome?_cons, same a List.mem_cons_self,
      ih fun a member => same a (List.mem_cons_of_mem _ member)]

/-! ### Obstacles -/

/-- What is known of a kext table are its names and identifiers. -/
theorem isSome_find?_notePlaces (table : KextTable) (text : String) :
    (Plist.Dictionary.find? (notePlaces [] 0 table.entries) text).isSome = table.knows text := by
  have found : Plist.Dictionary.find? (notePlaces [] 0 table.entries) text =
      Compile.place? table.entries text := by
    ext place
    rw [Compile.find?_notePlaces_eq_some, Compile.place?_eq_some]
  rw [found, Compile.place?, Option.isSome_or, List.findIdx?_isSome, List.findIdx?_isSome,
    KextTable.knows]
  induction table.entries with
  | nil => rfl
  | cons entry rest ih =>
    rw [List.any_cons, List.any_cons, List.any_cons, ← ih]
    cases entry.1 == Scalar.string text <;> cases entry.2.identifier == text <;> simp

/-- A patch is in the way of the compilation if its kext is not in the table. -/
theorem Patch.obstacle_eq (table : KextTable) (p : Patch) :
    p.obstacle (notePlaces [] 0 table.entries) =
      if table.knows p.executable then none else some (.unknownKext p.executable) := by
  rw [Patch.obstacle, isSome_find?_notePlaces]

/-- The first patch in the way is the first one whose kext is not in the table. -/
theorem findSome?_obstacle (table : KextTable) (list : List Patch) :
    list.findSome? (·.obstacle (notePlaces [] 0 table.entries)) =
      (list.find? fun p => !table.knows p.executable).map fun p => .unknownKext p.executable := by
  induction list with
  | nil => rfl
  | cons p rest ih =>
    rw [List.findSome?_cons, List.find?_cons, Patch.obstacle_eq, ih]
    cases table.knows p.executable <;> rfl

theorem CodecFile.obstacle_eq_none (files : Tree) {directory : Path} {file : CodecFile}
    (place : '\x00' ∉ directory.text.toList) (path : '\x00' ∉ file.path.toList) :
    file.obstacle files directory = none := by
  have absent : '\x00' ∉ (directory.join (.ofString file.path)).text.toList := by
    rw [Path.lacks_iff (by decide) (by decide)] at place ⊢
    exact Path.lacks_join place (Path.lacks_ofString (by decide) path)
  have readable := files.read_ne_nulInPath absent
  unfold CodecFile.obstacle
  split
  · next problem failed =>
    rw [failed] at readable
    exact if_neg fun same => readable (congrArg Except.error same)
  · rfl

/-- Only the patches of such a bundle can be in the way. -/
theorem CodecBundle.obstacle_eq (files : Tree) (kexts : List (Scalar × Nat)) {bundle : CodecBundle}
    (free : bundle.NulFree) :
    bundle.obstacle files kexts = bundle.info.patches.findSome? (·.obstacle kexts) := by
  have none : bundle.info.files.obstacle files bundle.path = none := by
    have each : ∀ file ∈ bundle.info.files.layouts ++ bundle.info.files.platforms,
        file.obstacle files bundle.path = none := fun file member =>
      file.obstacle_eq_none files free.1 (free.2 file member)
    unfold CodecFiles.obstacle
    rw [← List.findSome?_append]
    exact List.findSome?_eq_none_iff.mpr each
  unfold CodecBundle.obstacle
  rw [none, Option.none_or]

/-- Only patches stand in the way of groups. -/
theorem VendorGroup.findSome?_obstacle (files : Tree) (kexts : List (Scalar × Nat))
    {groups : List VendorGroup}
    (free : ∀ group ∈ groups, ∀ bundle ∈ group.bundles, bundle.NulFree) :
    groups.findSome? (·.obstacle files kexts) =
      (VendorGroup.patches groups).findSome? (·.obstacle kexts) := by
  rw [VendorGroup.patches, findSome?_flatMap]
  refine findSome?_congr fun group member => ?_
  rw [findSome?_flatMap]
  exact findSome?_congr fun bundle inside =>
    bundle.obstacle_eq files kexts (free group member bundle inside)

/-- What is in the way among controllers is in the way among their patches. -/
theorem findSome?_controllers (kexts : List (Scalar × Nat)) (controllers : List Controller) :
    controllers.findSome? (·.obstacle kexts) =
      (controllers.flatMap Controller.patches).findSome? (·.obstacle kexts) :=
  (findSome?_flatMap _ _ _).symm

end Resource

namespace Generate

open Compile (buffer visits)
open Report (Failure)

/-- Building stops at the first patch of an unknown kext, or at a path with the character U+0000. -/
theorem settles_visits (files : Tree) (tables : Directory.Tables) (groups : List VendorGroup) :
    Settles (fun _ => True) (visits buffer (visitsOf files tables groups))
      ((groups.findSome? (·.obstacle files (notePlaces [] 0 tables.kexts.entries))).or
        (tables.controllers.findSome? (·.obstacle (notePlaces [] 0 tables.kexts.entries)))) := by
  have knows : ∀ data stem, Compile.Keeps
      (fun s t => Knows (notePlaces [] 0 tables.kexts.entries) s →
        Knows (notePlaces [] 0 tables.kexts.entries) t) (buffer data stem) :=
    Compile.frame_knows.buffer fun _ _ _ _ => id
  have lookup (s : Compile.State) := Compile.settles_lookupTable tables.lookup s rfl
  have kexts (s : Compile.State) := Compile.settles_kextTable tables.kexts s rfl
  unfold visits visitsOf Generator.entities
  simp only [List.map_cons, List.map_nil, List.mapM_cons, List.mapM_nil]
  refine Settles.enter (J := fun _ => True) (fun _ _ => trivial)
    (Settles.map (fun s _ => lookup s) _) fun _ => Settles.map ?_ _
  refine Settles.enter (J := Knows (notePlaces [] 0 tables.kexts.entries)) ?_
    (Settles.map (fun s _ => kexts s) _) fun _ => Settles.map ?_ _
  · intro s nodes t _ run
    exact Compile.knows_kextTable (Compile.takes_nothing.mp run).1
  refine Settles.bind ?_ ((Compile.settles_vendorTable groups).map _) fun _ => Settles.map ?_ _
  · exact Compile.frame_knows.entityWith knows files (.vendorGroups groups) (fun _ _ _ => id) nofun
  refine Settles.last ?_ ((Compile.settles_controllerTable tables.controllers).map _)
    fun _ _ _ => rfl
  exact Compile.frame_knows.entityWith knows files (.controllerTable tables.controllers)
    (fun _ _ _ => id) nofun

/-- The first patch of an unknown kext. -/
def firstUnknown? (tables : Directory.Tables) (groups : List VendorGroup) : Option Patch :=
  (allPatches groups tables.controllers).find? fun p => !tables.kexts.knows p.executable

/-- The visits stop at the first patch whose kext is not in the table, if there is one. -/
theorem stopOf_visits (settings : Settings) (lines : List String) (files : Tree)
    (tables : Directory.Tables) {groups : List VendorGroup}
    (free : ∀ group ∈ groups, ∀ bundle ∈ group.bundles, bundle.NulFree) :
    stopOf (visits buffer (visitsOf files tables groups)) (opened settings lines) =
      (firstUnknown? tables groups).map fun p => .unknownKext p.executable := by
  rw [settles_visits files tables groups _ trivial, VendorGroup.findSome?_obstacle files _ free,
    findSome?_controllers, ← List.findSome?_append]
  exact findSome?_obstacle tables.kexts (allPatches groups tables.controllers)

/-- What building gives, where no path holds the character U+0000. -/
theorem outcome_build_of_nulFree (generator : Generator) {groups : List VendorGroup} (w : Workspace)
    (free : ∀ group ∈ groups, ∀ bundle ∈ group.bundles, bundle.NulFree) :
    match banner generator.settings (generator.settings.time w.now),
      firstUnknown? generator.tables groups with
    | .error excess, _ => (outcome (generator.build (some groups)) w).1 = .error (.excess excess)
    | .ok _, some p =>
      (outcome (generator.build (some groups)) w).1 = .error (.fault (.unknownKext p.executable))
    | .ok _, none => ∃ source, (outcome (generator.build (some groups)) w).1 = .ok source := by
  rw [outcome_build]
  cases banner generator.settings (generator.settings.time w.now) with
  | error excess => rfl
  | ok lines =>
    have stopped := stopOf_visits generator.settings lines w.files generator.tables free
    dsimp only
    unfold compiled
    rw [stopOf] at stopped
    rcases run : Compile.outcome (visits buffer (visitsOf w.files generator.tables groups))
      (opened generator.settings lines) with ⟨stop | results, state⟩
    · rw [run] at stopped
      cases first : firstUnknown? generator.tables groups with
      | none =>
        rw [first] at stopped
        cases stopped
      | some p =>
        rw [first] at stopped
        dsimp only at stopped ⊢
        rw [Option.some.inj stopped]
        rfl
    · rw [run] at stopped
      cases first : firstUnknown? generator.tables groups with
      | none => exact ⟨state.statements, rfl⟩
      | some p =>
        rw [first] at stopped
        cases stopped

/-- The result reports an executable of which no kext is known. -/
def Reports (result : Except Failure (List Node)) (executable : String) : Prop :=
  ∃ f, result = .error (.fault f) ∧ f.category = .inconsistency executable

theorem not_reports_ok (source : List Node) (executable : String) :
    ¬ Reports (.ok source) executable := by
  rintro ⟨f, failed, _⟩
  cases failed

theorem reports_unknownKext {name executable : String} :
    Reports (.error (.fault (.unknownKext name))) executable ↔ name = executable := by
  constructor
  · rintro ⟨f, failed, category⟩
    cases failed
    cases category
    rfl
  · rintro rfl
    exact ⟨_, rfl, rfl⟩

/-- Building reports an unknown kext if and only if there is a patch of one, and it reports the
first such patch, bundles before controllers. In every other case a source is built. The one other
failure is that of a banner whose width is no length of a text. -/
theorem build_reports_iff_unknown (generator : Generator) {groups : List VendorGroup}
    (w : Workspace) (free : ∀ group ∈ groups, ∀ bundle ∈ group.bundles, bundle.NulFree) :
    match Text.lengthOf .width generator.settings.bannerWidth with
    | .error excess => (outcome (generator.build (some groups)) w).1 = .error (.excess excess)
    | .ok _ =>
      (∀ executable, Reports (outcome (generator.build (some groups)) w).1 executable ↔
        (firstUnknown? generator.tables groups).map Patch.executable = some executable) ∧
      ((∃ executable, Reports (outcome (generator.build (some groups)) w).1 executable) ↔
        ∃ p ∈ allPatches groups generator.tables.controllers,
          generator.tables.kexts.Lacks p.executable) ∧
      ((∀ p ∈ allPatches groups generator.tables.controllers,
          ¬ generator.tables.kexts.Lacks p.executable) →
        ∃ source, (outcome (generator.build (some groups)) w).1 = .ok source) := by
  have given := outcome_build_of_nulFree generator w free
  have unknown : (firstUnknown? generator.tables groups).isSome ↔
      ∃ p ∈ allPatches groups generator.tables.controllers,
        generator.tables.kexts.Lacks p.executable := by
    simp [firstUnknown?, KextTable.knows_eq_false]
  rcases wide : Text.lengthOf .width generator.settings.bannerWidth with excess | width
  · rw [banner, wide] at given
    exact given
  · rw [banner, wide] at given
    dsimp only [bind, Except.bind, pure, Except.pure] at given ⊢
    rw [← unknown]
    cases first : firstUnknown? generator.tables groups with
    | none =>
      rw [first] at given
      obtain ⟨source, built⟩ := given
      simp [built, not_reports_ok]
    | some p =>
      rw [first] at given unknown
      dsimp only at given
      refine ⟨by simp [given, reports_unknownKext], by simp [given, reports_unknownKext], ?_⟩
      intro none
      obtain ⟨q, member, lacks⟩ := unknown.mp rfl
      exact absurd lacks (none q member)

/-- A generator without kexts. -/
def withoutKexts : Generator := ⟨.here, {}, ⟨[], .ofDictionary [], []⟩⟩

/-- A bundle with a patch, the file of which is missing. -/
def patched : List VendorGroup :=
  [⟨.realtek, [⟨⟨.realtek, "ALC269", 617, ⟨[⟨1, "layout1.xml", 0, 0⟩], []⟩,
    [.idle "AppleHDA"], []⟩, .here⟩]⟩]

/-- A bundle whose patch is for a kext that no table has is reported. -/
theorem build_reports_iff_unknown_patched :
    Reports (outcome (withoutKexts.build (some patched))
      ⟨.empty, ⟨2018, 9, 1, 12, 0, 0, 0⟩, []⟩).1 "AppleHDA" := by
  have free : ∀ group ∈ patched, ∀ bundle ∈ group.bundles, bundle.NulFree := by
    intro group member bundle inside
    rw [List.mem_singleton.mp member] at inside
    rw [List.mem_singleton.mp inside]
    exact ⟨by decide, by decide⟩
  have all := build_reports_iff_unknown withoutKexts ⟨.empty, ⟨2018, 9, 1, 12, 0, 0, 0⟩, []⟩ free
  rw [show Text.lengthOf .width withoutKexts.settings.bannerWidth = .ok 60 from rfl] at all
  exact (all.1 "AppleHDA").mpr (by decide)

end Generate

end CodecTables
