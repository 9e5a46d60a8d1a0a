import CodecTables.Proofs.Compile.Places
import CodecTables.Proofs.Compile.Visits

/-!
# What stops compiling

Compiling stops at the first patch of an unknown kext, or at the first codec file whose path holds
the character U+0000, whatever else happens: a file that cannot be read never stops it. Which of
them is met first is told from the resources, the files and the known kexts alone
(`settles_vendorTable`, `settles_controllerTable`).
-/

namespace CodecTables

open Compile (Stop)
open Files (Path Tree)
open Plist (Scalar)
open Resource
open Source (Node)

namespace Resource

/-- A patch of an unknown kext. -/
def Patch.obstacle (kexts : List (Scalar × Nat)) (p : Patch) : Option Stop :=
  if (Plist.Dictionary.find? kexts p.executable).isSome then none
  else some (.unknownKext p.executable)

/-- A path with the character U+0000. -/
def CodecFile.obstacle (files : Tree) (directory : Path) (file : CodecFile) : Option Stop :=
  match files.read (directory.join (.ofString file.path)) with
  | .error problem => if problem = .nulInPath then some .nulInPath else none
  | .ok _ => none

/-- The first file of a codec that stops compiling. -/
def CodecFiles.obstacle (files : Tree) (directory : Path) (codec : CodecFiles) : Option Stop :=
  (codec.layouts.findSome? (·.obstacle files directory)).or
    (codec.platforms.findSome? (·.obstacle files directory))

/-- What stops the compiling of a bundle: a file, or else a patch. -/
def CodecBundle.obstacle (files : Tree) (kexts : List (Scalar × Nat)) (bundle : CodecBundle) :
    Option Stop :=
  (bundle.info.files.obstacle files bundle.path).or
    (bundle.info.patches.findSome? (·.obstacle kexts))

/-- What stops the compiling of the bundles of a vendor. -/
def VendorGroup.obstacle (files : Tree) (kexts : List (Scalar × Nat)) (group : VendorGroup) :
    Option Stop :=
  group.bundles.findSome? (·.obstacle files kexts)

/-- What stops the compiling of a controller. -/
def Controller.obstacle (kexts : List (Scalar × Nat)) (entry : Controller) : Option Stop :=
  entry.patches.findSome? (·.obstacle kexts)

end Resource

namespace Compile

variable {α β : Type}

/-- Two steps stop where the first one does, or else where the second one does. -/
theorem stopOf_bind (step : Step α) (next : α → Step β) (s : State) :
    stopOf (step >>= next) s =
      match outcome step s with
      | (.ok a, t) => stopOf (next a) t
      | (.error stop, _) => some stop := by
  rw [stopOf, outcome_bind]
  rcases outcome step s with ⟨_ | a, t⟩ <;> rfl

/-- From all states that satisfy `I`, a step stops for the given reason, or else goes through. -/
def Settles (I : State → Prop) (step : Step α) (obstacle : Option Stop) : Prop :=
  ∀ s, I s → stopOf step s = obstacle

namespace Settles

variable {I : State → Prop}

/-- The first of two steps to stop is what stops both. -/
theorem seq {J : State → Prop} {step : Step α} {next : α → Step β} {first second : Option Stop}
    (leads : ∀ {s a t}, I s → Takes step s a t → J t) (begins : Settles I step first)
    (goes : ∀ a, Settles J (next a) second) : Settles I (step >>= next) (first.or second) := by
  intro s inside
  have begun := begins s inside
  rw [stopOf_bind]
  rcases run : outcome step s with ⟨stop | a, t⟩
  · rw [stopOf, run] at begun
    rw [← begun, Option.some_or]
  · rw [stopOf, run] at begun
    rw [← begun, Option.none_or]
    exact goes a t (leads inside run)

/-- What stops the first of two steps stops both, and else what stops the second. -/
theorem bind {step : Step α} {next : α → Step β} {first second : Option Stop}
    (stays : Keeps (fun s t => I s → I t) step) (begins : Settles I step first)
    (goes : ∀ a, Settles I (next a) second) : Settles I (step >>= next) (first.or second) :=
  seq (fun inside run => stays.of_takes run inside) begins goes

/-- A value that is made from that of a step does not stop it. -/
theorem map {step : Step α} {obstacle : Option Stop} (settles : Settles I step obstacle)
    (f : α → β) : Settles I (step >>= fun a => pure (f a)) obstacle := by
  intro s inside
  have done := settles s inside
  rw [stopOf] at done
  rw [stopOf_bind]
  rcases run : outcome step s with ⟨stop | a, t⟩
  · rwa [run] at done
  · rwa [run] at done

/-- The first element whose step stops is what stops a list of steps. -/
theorem mapM {step : α → Step β} {obstacle : α → Option Stop} (as : List α)
    (stays : ∀ a, Keeps (fun s t => I s → I t) (step a))
    (each : ∀ a, Settles I (step a) (obstacle a)) :
    Settles I (as.mapM step) (as.findSome? obstacle) := by
  induction as with
  | nil => exact fun _ _ => rfl
  | cons a as ih =>
    rw [List.mapM_cons, List.findSome?_cons]
    have both := Settles.bind (stays a) (each a) fun b => ih.map (b :: ·)
    cases first : obstacle a with
    | none => rwa [first, Option.none_or] at both
    | some stop => rwa [first, Option.some_or] at both

/-- Steps over a list go through if each of them does. -/
theorem mapM_none {step : α → Step β} (as : List α)
    (stays : ∀ a, Keeps (fun s t => I s → I t) (step a))
    (each : ∀ a, Settles I (step a) none) : Settles I (as.mapM step) none := by
  have all := mapM as stays each
  rwa [List.findSome?_eq_none_iff.mpr fun _ _ => rfl] at all

/-- A step that goes through before another one. -/
theorem enter {J : State → Prop} {step : Step α} {next : α → Step β} {second : Option Stop}
    (leads : ∀ {s a t}, I s → Takes step s a t → J t) (begins : Settles I step none)
    (goes : ∀ a, Settles J (next a) second) : Settles I (step >>= next) second := by
  have both := seq leads begins goes
  rwa [Option.none_or] at both

/-- A step that goes through does not matter for what stops the next. -/
theorem skip {step : Step α} {next : α → Step β} {second : Option Stop}
    (stays : Keeps (fun s t => I s → I t) step) (begins : Settles I step none)
    (goes : ∀ a, Settles I (next a) second) : Settles I (step >>= next) second :=
  enter (fun inside run => stays.of_takes run inside) begins goes

/-- A step that stops before one that goes through. -/
theorem last {step : Step α} {next : α → Step β} {first : Option Stop}
    (stays : Keeps (fun s t => I s → I t) step) (begins : Settles I step first)
    (goes : ∀ a, Settles I (next a) none) : Settles I (step >>= next) first := by
  have both := bind stays begins goes
  rwa [Option.or_none] at both

theorem buffer (data : List UInt8) (stem : String) : Settles I (buffer data stem) none := by
  intro s _
  obtain ⟨name, t, run⟩ := exists_takes_buffer data stem s
  exact stopOf_of_takes run

/-! ### Rules -/

section Rules

variable {kexts : List (Scalar × Nat)} {directory : Path} {files : Tree}
  (frame : Frame fun s t => I s → I t)
  (stores : ∀ data stem, Keeps (fun s t => I s → I t) (Compile.buffer data stem))

include stores

theorem patch (known : ∀ s, I s → s.kexts = kexts) (p : Patch) :
    Settles I (patch Compile.buffer p) (p.obstacle kexts) := by
  unfold Compile.patch
  refine skip (stores _ _) (buffer _ _) fun find => skip (stores _ _) (buffer _ _) fun replace => ?_
  intro s inside
  rw [stopOf_bind, outcome_get]
  dsimp only
  rw [known s inside, Patch.obstacle]
  cases Plist.Dictionary.find? kexts p.executable <;> rfl

include frame in
/-- Patches settle by the first of them that stops. -/
theorem patches (known : ∀ s, I s → s.kexts = kexts) (list : List Patch) :
    Settles I (patches Compile.buffer list) (list.findSome? (·.obstacle kexts)) :=
  last (frame.mapM list fun p _ => frame.patch stores p)
    (mapM list (fun p => frame.patch stores p) fun p => patch stores known p) fun _ _ _ => rfl

omit stores in
theorem revisions (codes : List Int) : Settles I (revisions codes) none := by
  intro s _
  unfold Compile.revisions
  split <;> rfl

omit stores in
theorem codecFile (here : ∀ s, I s → s.directory = directory) (file : CodecFile) :
    Settles I (codecFile Compile.buffer files file) (file.obstacle files directory) := by
  intro s inside
  rw [← here s inside]
  unfold CodecFile.obstacle
  rcases found : files.read (s.directory.join (.ofString file.path)) with problem | bytes
  · dsimp only
    by_cases null : problem = .nulInPath
    · rw [null] at found
      rw [null, if_pos rfl, stopOf, outcome_codecFile_of_nulInPath found]
    · rw [if_neg null]
      exact stopOf_of_takes ((takes_codecFile_of_error found).mpr ⟨null, rfl, rfl⟩)
  · obtain ⟨name, t, stored⟩ := exists_takes_buffer bytes "file" s
    exact stopOf_of_takes ((takes_codecFile_of_ok found).mpr ⟨name, stored, rfl⟩)

include frame

/-- The files of a codec settle by the first of them that stops. -/
theorem codecFiles (here : ∀ s, I s → s.directory = directory) (codec : CodecFiles) :
    Settles I (codecFiles Compile.buffer files codec) (codec.obstacle files directory) := by
  have file (file : CodecFile) : Keeps (fun s t => I s → I t)
      (Compile.codecFile Compile.buffer files file) := frame.codecFile stores files file
  unfold Compile.codecFiles
  intro s inside
  rw [stopOf_bind, show outcome (structArray "CodecModInfo::File") s = (.ok _, s.use _) from rfl]
  refine bind (frame.mapM codec.layouts fun a _ => file a)
    (mapM codec.layouts file fun a => codecFile here a) (fun layouts => ?_) _
    (frame.use s _ inside)
  exact last (frame.mapM codec.platforms fun a _ => file a)
    (mapM codec.platforms file fun a => codecFile here a) fun _ _ _ => rfl

/-- A codec settles by its files, and then by its patches. -/
theorem codecInfo (known : ∀ s, I s → s.kexts = kexts) (here : ∀ s, I s → s.directory = directory)
    (info : CodecInfo) :
    Settles I (codecInfo Compile.buffer files info)
      ((info.files.obstacle files directory).or (info.patches.findSome? (·.obstacle kexts))) := by
  unfold Compile.codecInfo
  refine bind (frame.codecFiles stores files info.files) (codecFiles frame stores here info.files)
    fun arrays => ?_
  refine last (frame.patches stores info.patches) (patches frame stores known info.patches)
    fun patchArray => ?_
  exact skip (frame.revisions info.revisions) (revisions info.revisions) fun _ _ _ => rfl

theorem controller (known : ∀ s, I s → s.kexts = kexts) (entry : Controller) :
    Settles I (controller Compile.buffer entry) (entry.obstacle kexts) := by
  unfold Compile.controller
  refine last (frame.patches stores entry.patches) (patches frame stores known entry.patches)
    fun patchArray => ?_
  exact skip (frame.revisions entry.revisions) (revisions entry.revisions) fun _ _ _ => rfl

end Rules

end Settles

/-! ### Tables -/

section Tables

variable {kexts : List (Scalar × Nat)} {files : Tree}

/-- The kexts are known. -/
def Knows (kexts : List (Scalar × Nat)) (s : State) : Prop := s.kexts = kexts

/-- Each change of a state leaves the kexts known. -/
theorem frame_knows : Frame fun s t => Knows kexts s → Knows kexts t where
  refl _ := id
  trans first second := second ∘ first
  add _ _ _ := id
  mint _ _ := id
  use _ _ := id
  log _ _ := id

/-- Each change of a state leaves the kexts known, and the directory. -/
theorem frame_knowsAt {directory : Path} :
    Frame fun s t => Knows kexts s ∧ At directory s → Knows kexts t ∧ At directory t where
  refl _ := id
  trans first second := second ∘ first
  add _ _ _ := id
  mint _ _ := id
  use _ _ := id
  log _ _ := id

theorem settles_codecBundle (bundle : CodecBundle) :
    Settles (Knows kexts) (codecBundle buffer files bundle) (bundle.obstacle files kexts) := by
  intro s inside
  unfold codecBundle
  rw [stopOf_bind, outcome_modify]
  exact Settles.codecInfo frame_knowsAt (frame_knowsAt.buffer fun _ _ _ _ => id)
    (fun _ inside => inside.1) (fun _ inside => inside.2) bundle.info _ ⟨inside, rfl⟩

theorem keeps_codecBundle (bundle : CodecBundle) :
    Keeps (fun s t => Knows kexts s → Knows kexts t) (codecBundle buffer files bundle) :=
  frame_knows.codecBundle (frame_knows.buffer fun _ _ _ _ => id) files bundle fun _ => id

/-- The bundles of a vendor settle by the first of them that stops. -/
theorem settles_vendorGroup (group : VendorGroup) :
    Settles (Knows kexts) (vendorGroup buffer files group) (group.obstacle files kexts) := by
  unfold vendorGroup
  refine Settles.skip (frame_knows.openSection _) (fun _ _ => rfl) fun _ => ?_
  exact Settles.last (frame_knows.mapM group.bundles fun bundle _ => keeps_codecBundle bundle)
    (Settles.mapM group.bundles keeps_codecBundle settles_codecBundle) fun _ _ _ => rfl

/-- The table of vendors settles by the first bundle that stops. -/
theorem settles_vendorTable (groups : List VendorGroup) :
    Settles (Knows kexts) (vendorTable buffer files groups)
      (groups.findSome? (·.obstacle files kexts)) := by
  have keeps (group : VendorGroup) : Keeps (fun s t => Knows kexts s → Knows kexts t)
      (vendorGroup buffer files group) :=
    frame_knows.vendorGroup (frame_knows.buffer fun _ _ _ _ => id) files group fun _ _ _ => id
  unfold vendorTable
  exact Settles.last (frame_knows.mapM groups fun group _ => keeps group)
    (Settles.mapM groups keeps settles_vendorGroup) fun _ _ _ => rfl

/-- The table of controllers settles by the first controller that stops. -/
theorem settles_controllerTable (entries : List Controller) :
    Settles (Knows kexts) (controllerTable buffer entries)
      (entries.findSome? (·.obstacle kexts)) := by
  have stores : ∀ data stem, Keeps (fun s t => Knows kexts s → Knows kexts t) (buffer data stem) :=
    frame_knows.buffer fun _ _ _ _ => id
  have keeps (entry : Controller) := frame_knows.controller stores entry
  unfold controllerTable
  refine Settles.skip (frame_knows.openSection _) (fun _ _ => rfl) fun _ => ?_
  exact Settles.last (frame_knows.mapM entries fun entry _ => keeps entry)
    (Settles.mapM entries keeps (Settles.controller frame_knows stores fun _ => id))
    fun _ _ _ => rfl

/-- Without patches and files there is nothing that stops. -/
theorem settles_lookupTable (entries : List LookupEntry) :
    Settles (Knows kexts) (lookupTable entries) none := by
  unfold lookupTable
  refine Settles.skip (frame_knows.openSection _) (fun _ _ => rfl) fun _ => ?_
  exact Settles.skip (frame_knows.mapM entries fun entry _ => frame_knows.lookupEntry entry)
    (Settles.mapM_none entries frame_knows.lookupEntry fun _ _ _ => rfl) fun _ _ _ => rfl

theorem settles_kextTable (table : KextTable) :
    Settles (Knows kexts) (kextTable table) none := by
  unfold kextTable
  refine Settles.skip (frame_knows.openSection _) (fun _ _ => rfl) fun _ => ?_
  refine Settles.enter (J := Knows (notePlaces [] 0 table.entries)) ?_ (fun _ _ => rfl) fun _ => ?_
  · intro s _ t _ changed
    rw [takes_modify.mp changed]
    rfl
  have frame : Frame fun s t =>
      Knows (notePlaces [] 0 table.entries) s → Knows (notePlaces [] 0 table.entries) t :=
    frame_knows
  have keeps (entry : Scalar × KextInfo) := frame.kextInfo entry.2
  exact Settles.skip (frame.mapM table.entries fun entry _ => keeps entry)
    (Settles.mapM_none table.entries keeps fun _ _ _ => rfl) fun _ _ _ => rfl

/-- A kext table leads to the places of its own kexts. -/
theorem knows_kextTable {table : KextTable} {s t : State} {u : Unit}
    (run : Takes (kextTable table) s u t) : Knows (notePlaces [] 0 table.entries) t := by
  obtain ⟨v, rows, course, _, declared⟩ :
      ∃ v rows, Course (fun _ => True) .empty _ [] [] v ∧ _ ∧ _ := rows_kextTable run
  rw [takes_declareTable.mp declared]
  exact course.kexts

end Tables

end Compile

end CodecTables
