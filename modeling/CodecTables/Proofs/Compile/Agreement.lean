import CodecTables.Proofs.Compile.Visits

/-!
# The files that compiling reads

Compiling looks at no other files than those that the codec bundles refer to. With trees that give
the same for these, a codec bundle is compiled alike (`codecBundle_congr`), and so are all groups of
bundles (`vendorTable_congr`).
-/

namespace CodecTables.Compile

open Files (Path Tree)
open Resource
open Source (Node)

variable {α β : Type}

/-- The step does not go to another directory. -/
def Stays (step : Step α) : Prop := Keeps (fun s t => t.directory = s.directory) step

/-- From all states at a directory, two steps have the same outcome. -/
def AgreeAt (directory : Path) (step other : Step α) : Prop :=
  ∀ s, At directory s → outcome step s = outcome other s

namespace AgreeAt

variable {directory : Path}

theorem refl (step : Step α) : AgreeAt directory step step := fun _ _ => rfl

/-- Steps that agree and stay at the directory go on in agreement. -/
theorem bind {step other : Step α} {next further : α → Step β}
    (first : AgreeAt directory step other) (stays : Stays other)
    (second : ∀ a, AgreeAt directory (next a) (further a)) :
    AgreeAt directory (step >>= next) (other >>= further) := by
  intro s here
  have there := stays s
  rw [outcome_bind, outcome_bind, first s here]
  rcases run : outcome other s with ⟨_ | a, t⟩
  · rfl
  · rw [run] at there
    exact second a t (there.trans here)

/-- Steps over a list agree if those over each element do. -/
theorem mapM {step other : α → Step β} {as : List α} (stays : ∀ a ∈ as, Stays (other a))
    (each : ∀ a ∈ as, AgreeAt directory (step a) (other a)) :
    AgreeAt directory (as.mapM step) (as.mapM other) := by
  induction as with
  | nil => exact .refl _
  | cons a as ih =>
    have later : ∀ b ∈ as, Stays (other b) :=
      fun b member => stays b (List.mem_cons_of_mem _ member)
    rw [List.mapM_cons, List.mapM_cons]
    refine bind (each a List.mem_cons_self) (stays a List.mem_cons_self) fun b => ?_
    refine bind (ih later fun a member => each a (List.mem_cons_of_mem _ member)) ?_
      fun bs => .refl _
    exact frame_directory.mapM as later

end AgreeAt

section Rules

variable {store : Storage} (stores : ∀ data stem, Stays (store data stem)) {files other : Tree}
  {directory : Path}

/-- The files of a codec give the same in both trees. -/
def SameReads (files other : Tree) (directory : Path) (codec : CodecFiles) : Prop :=
  ∀ file ∈ codec.layouts ++ codec.platforms,
    other.read (directory.join (.ofString file.path)) =
      files.read (directory.join (.ofString file.path))

/-- A file is compiled alike where it is read alike. -/
theorem agreeAt_codecFile {file : CodecFile}
    (same : other.read (directory.join (.ofString file.path)) =
      files.read (directory.join (.ofString file.path))) :
    AgreeAt directory (codecFile store other file) (codecFile store files file) := by
  intro s here
  unfold codecFile
  rw [outcome_bind, outcome_bind, outcome_get]
  dsimp only
  rw [show s.directory = directory from here, same]

include stores in
/-- The files of a codec are compiled alike where they are read alike. -/
theorem agreeAt_codecFiles {codec : CodecFiles} (same : SameReads files other directory codec) :
    AgreeAt directory (codecFiles store other codec) (codecFiles store files codec) := by
  have stays (file : CodecFile) : Stays (codecFile store files file) :=
    frame_directory.codecFile stores files file
  have layouts : AgreeAt directory (codec.layouts.mapM (codecFile store other))
      (codec.layouts.mapM (codecFile store files)) :=
    .mapM (fun file _ => stays file) fun file member =>
      agreeAt_codecFile (same file (List.mem_append_left _ member))
  have platforms : AgreeAt directory (codec.platforms.mapM (codecFile store other))
      (codec.platforms.mapM (codecFile store files)) :=
    .mapM (fun file _ => stays file) fun file member =>
      agreeAt_codecFile (same file (List.mem_append_right _ member))
  unfold codecFiles
  refine AgreeAt.bind (.refl _) (fun _ => rfl) fun fileArray => ?_
  refine AgreeAt.bind layouts (frame_directory.mapM _ fun file _ => stays file) fun layoutRows => ?_
  exact AgreeAt.bind platforms (frame_directory.mapM _ fun file _ => stays file) fun _ => .refl _

include stores in
/-- A codec is compiled alike where its files are read alike. -/
theorem agreeAt_codecInfo {info : CodecInfo} (same : SameReads files other directory info.files) :
    AgreeAt directory (codecInfo store other info) (codecInfo store files info) :=
  AgreeAt.bind (agreeAt_codecFiles stores same) (frame_directory.codecFiles stores files info.files)
    fun _ => .refl _

include stores in
/-- A codec bundle goes to its own directory first, so it is compiled alike from all states. -/
theorem codecBundle_congr {bundle : CodecBundle}
    (same : SameReads files other bundle.path bundle.info.files) :
    codecBundle store other bundle = codecBundle store files bundle := by
  funext s
  have entered (tree : Tree) : codecBundle store tree bundle s =
      outcome (codecInfo store tree bundle.info) { s with directory := bundle.path } := rfl
  rw [entered, entered]
  exact agreeAt_codecInfo stores same _ rfl

theorem mapM_congr {step further : α → Step β} {as : List α} (same : ∀ a ∈ as, step a = further a) :
    as.mapM step = as.mapM further := by
  induction as with
  | nil => rfl
  | cons a as ih =>
    rw [List.mapM_cons, List.mapM_cons, same a List.mem_cons_self,
      ih fun a member => same a (List.mem_cons_of_mem _ member)]

include stores in
/-- Groups of bundles whose files give the same are compiled alike. -/
theorem vendorTable_congr {groups : List VendorGroup}
    (same : ∀ bundle ∈ groups.flatMap VendorGroup.bundles,
      SameReads files other bundle.path bundle.info.files) :
    vendorTable store other groups = vendorTable store files groups := by
  have each : ∀ group ∈ groups, vendorGroup store other group = vendorGroup store files group := by
    intro group member
    unfold vendorGroup
    rw [mapM_congr fun bundle inside => codecBundle_congr stores
      (same bundle (List.mem_flatMap.mpr ⟨group, member, inside⟩))]
  unfold vendorTable
  rw [mapM_congr each]

end Rules

end CodecTables.Compile
