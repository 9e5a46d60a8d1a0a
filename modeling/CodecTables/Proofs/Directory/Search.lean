import CodecTables.Directory.Bundle
import CodecTables.Proofs.Decode.Schema
import CodecTables.Proofs.Directory.Loading

/-!
# The search for codec bundles

The search tries every directory that is neither hidden nor a package, and each that is tried gives
a bundle or an error in the log (`loadBundles_account`). It ends early only at a path that is too
long to be looked at (`loadBundles_blocked`). What it finds depends neither on the order of the
listing (`findBundles_congr`) nor on the entries that give no bundle (`loadBundles_filter`).
-/

namespace CodecTables.Directory

open Decode (Refusal)
open Files (Location Path Tree)
open Generate (Settings)
open Plist (Value)
open Report (Failure Fault Record)
open Resource (CodecBundle CodecInfo)

variable {α : Type} {files other : Tree} {settings : Settings} {directory path : Path}
  {place : Location}

/-! ### One directory -/

/-- What a decoder that refuses with faults cannot load is reported as a fault. -/
theorem fault_of_load {decode : Value → Except Refusal α} {failure : Failure}
    (refuses : ∀ value, Decode.Faults (decode value))
    (failed : load decode files path = .error failure) : ∃ cause, failure = .fault cause := by
  rcases load_eq_error failed with ⟨cause, _, rfl⟩ | ⟨value, refusal, _, refused, rfl⟩
  · exact ⟨cause, rfl⟩
  · obtain ⟨cause, reported, _⟩ := refuses value refusal refused
    rw [reported]
    exact ⟨_, rfl⟩

/-- A directory gives a bundle if its info file describes a codec; else a fault about it. -/
theorem loadBundle_cases (files : Tree) (directory : Path) (infoFile : String) :
    (∃ info, load Decode.codecInfo files (directory.join (.ofString infoFile)) = .ok info ∧
      loadBundle files directory infoFile = .ok ⟨info, directory⟩) ∨
    ∃ cause, load Decode.codecInfo files (directory.join (.ofString infoFile)) =
        .error (.fault cause) ∧
      loadBundle files directory infoFile = .error (.fault (.invalidBundle directory cause)) := by
  unfold loadBundle
  rcases loaded : load Decode.codecInfo files (directory.join (.ofString infoFile)) with
    failure | info
  · obtain ⟨cause, rfl⟩ := fault_of_load Decode.faults_codecInfo loaded
    exact .inr ⟨cause, rfl, rfl⟩
  · exact .inl ⟨info, rfl, rfl⟩

/-- The path is tried: it leads to a directory that is neither hidden nor a package. -/
def tries (files : Tree) (settings : Settings) (path : Path) : Bool :=
  !path.name.startsWith "." && files.isDirectory path matches .ok true &&
    !settings.packageSuffixes.contains (Text.lowercase path.suffix)

/-- The path is not hidden, and cannot even be looked at. -/
def blocks (files : Tree) (path : Path) : Bool :=
  !path.name.startsWith "." && files.isDirectory path matches .error _

/-- The test for a candidate gives an answer where the path does not block it. -/
theorem isCandidate_eq (clear : blocks files path = false) :
    isCandidate files settings path = .ok (tries files settings path) := by
  unfold blocks at clear
  unfold isCandidate tries
  cases hidden : path.name.startsWith "." with
  | true => rfl
  | false =>
    rw [hidden] at clear
    rcases looked : files.isDirectory path with problem | _ | _
    · rw [looked] at clear
      cases clear
    · rfl
    · rfl

/-- A child does not block if it is hidden or its path is not too long. -/
theorem blocks_child_eq_false {name : String}
    (short : name.startsWith "." = false →
      files.isDirectory (directory.child name) ≠ .error .nameTooLong) :
    blocks files (directory.child name) = false := by
  unfold blocks
  rw [Path.name_child]
  cases hidden : name.startsWith "." with
  | true => rfl
  | false =>
    rcases looked : files.isDirectory (directory.child name) with problem | found
    · rw [Tree.eq_nameTooLong_of_isDirectory looked] at looked
      exact absurd looked (short hidden)
    · rfl

/-! ### All directories -/

section Cons

variable {rest : List Path}

theorem loadBundles_cons (path : Path) (rest : List Path) :
    loadBundles files settings (path :: rest) =
      consider files settings path (loadBundles files settings rest) :=
  List.foldr_cons ..

theorem loadBundles_cons_of_not_tries (clear : blocks files path = false)
    (other : tries files settings path = false) :
    loadBundles files settings (path :: rest) = loadBundles files settings rest := by
  rw [loadBundles_cons, consider, isCandidate_eq clear, other]

/-- A bundle that loads comes first, and a record of it is made. -/
theorem loadBundles_cons_of_loaded (clear : blocks files path = false)
    (tried : tries files settings path = true) {bundle : CodecBundle}
    (loaded : loadBundle files path settings.bundleInfoFile = .ok bundle) :
    loadBundles files settings (path :: rest) =
      ((loadBundles files settings rest).1.map (bundle :: ·),
        ⟨.debug, .loader, "Loaded codec bundle " ++ path.name⟩ ::
          (loadBundles files settings rest).2) := by
  rw [loadBundles_cons, consider, isCandidate_eq clear, tried, loaded]

/-- A bundle that is refused is left out, and a record of the fault is made. -/
theorem loadBundles_cons_of_refused (clear : blocks files path = false)
    (tried : tries files settings path = true) {f : Fault}
    (refused : loadBundle files path settings.bundleInfoFile = .error (.fault f)) :
    loadBundles files settings (path :: rest) =
      ((loadBundles files settings rest).1,
        ⟨.error, .loader, f.text⟩ :: (loadBundles files settings rest).2) := by
  rw [loadBundles_cons, consider, isCandidate_eq clear, tried, refused]

theorem loadBundles_cons_of_blocked {problem : Files.Problem}
    (visible : path.name.startsWith "." = false)
    (blocked : files.isDirectory path = .error problem) :
    loadBundles files settings (path :: rest) = (.error (.inaccessible problem path), []) := by
  have refused : isCandidate files settings path = .error (.inaccessible problem path) := by
    rw [isCandidate, visible, blocked]
    rfl
  rw [loadBundles_cons, consider, refused]

end Cons

/-- The account of a search: each directory that is tried gives its bundle, or else an error that
names it. -/
inductive Account (files : Tree) (infoFile : String) :
    List Path → List CodecBundle → List Record → Prop
  | done : Account files infoFile [] [] []
  | loaded {path : Path} {info : CodecInfo} {rest : List Path} {bundles : List CodecBundle}
      {log : List Record}
      (decoded : load Decode.codecInfo files (path.join (.ofString infoFile)) = .ok info)
      (further : Account files infoFile rest bundles log) :
      Account files infoFile (path :: rest) (⟨info, path⟩ :: bundles)
        (⟨.debug, .loader, "Loaded codec bundle " ++ path.name⟩ :: log)
  | skipped {path : Path} {cause : Fault} {rest : List Path} {bundles : List CodecBundle}
      {log : List Record}
      (failed : load Decode.codecInfo files (path.join (.ofString infoFile)) =
        .error (.fault cause))
      (further : Account files infoFile rest bundles log) :
      Account files infoFile (path :: rest) bundles
        (⟨.error, .loader, (Fault.invalidBundle path cause).text⟩ :: log)

namespace Account

variable {infoFile : String} {paths : List Path} {bundles : List CodecBundle} {log : List Record}

theorem sublist (account : Account files infoFile paths bundles log) :
    (bundles.map CodecBundle.path).Sublist paths := by
  induction account with
  | done => exact .refl _
  | loaded _ _ ih => exact ih.cons_cons _
  | skipped _ _ ih => exact ih.cons _

/-- The bundles are those of the paths at which an info file describes a codec. -/
theorem mem_iff (account : Account files infoFile paths bundles log) (bundle : CodecBundle) :
    bundle ∈ bundles ↔ bundle.path ∈ paths ∧
      load Decode.codecInfo files (bundle.path.join (.ofString infoFile)) = .ok bundle.info := by
  induction account with
  | done => simp
  | @loaded path info _ _ _ decoded _ ih =>
    rw [List.mem_cons, List.mem_cons, ih, or_and_right]
    refine or_congr_left ?_
    constructor
    · rintro rfl
      exact ⟨rfl, decoded⟩
    · rintro ⟨rfl, same⟩
      rw [decoded] at same
      rw [Except.ok.inj same]
  | @skipped path _ _ _ _ failed _ ih =>
    rw [ih, List.mem_cons, or_and_right]
    refine (or_iff_right ?_).symm
    rintro ⟨rfl, decoded⟩
    rw [failed] at decoded
    cases decoded

end Account

/-- Every path that is tried is accounted for. -/
theorem loadBundles_account {paths : List Path}
    (clear : ∀ path ∈ paths, blocks files path = false) :
    ∃ bundles log, loadBundles files settings paths = (.ok bundles, log) ∧
      Account files settings.bundleInfoFile (paths.filter (tries files settings)) bundles log := by
  induction paths with
  | nil => exact ⟨[], [], rfl, .done⟩
  | cons path rest ih =>
    obtain ⟨bundles, log, found, account⟩ :=
      ih fun path member => clear path (List.mem_cons_of_mem _ member)
    have passable := clear path List.mem_cons_self
    rw [List.filter_cons]
    cases tried : tries files settings path with
    | false =>
      rw [loadBundles_cons_of_not_tries passable tried, if_neg Bool.false_ne_true]
      exact ⟨bundles, log, found, account⟩
    | true =>
      rw [if_pos rfl]
      rcases loadBundle_cases files path settings.bundleInfoFile with
        ⟨info, decoded, loaded⟩ | ⟨cause, failed, refused⟩
      · rw [loadBundles_cons_of_loaded passable tried loaded, found]
        exact ⟨_, _, rfl, .loaded decoded account⟩
      · rw [loadBundles_cons_of_refused passable tried refused, found]
        exact ⟨_, _, rfl, .skipped failed account⟩

/-- The first path that cannot be looked at ends the search, whatever was found before. -/
theorem loadBundles_blocked {before rest : List Path} {problem : Files.Problem}
    (clear : ∀ path ∈ before, blocks files path = false)
    (visible : path.name.startsWith "." = false)
    (blocked : files.isDirectory path = .error problem) :
    (loadBundles files settings (before ++ path :: rest)).1 =
      .error (.inaccessible problem path) := by
  induction before with
  | nil => rw [List.nil_append, loadBundles_cons_of_blocked visible blocked]
  | cons first before ih =>
    have later := ih fun path member => clear path (List.mem_cons_of_mem _ member)
    have passable := clear first List.mem_cons_self
    rw [List.cons_append]
    cases tried : tries files settings first with
    | false => rw [loadBundles_cons_of_not_tries passable tried, later]
    | true =>
      rcases loadBundle_cases files first settings.bundleInfoFile with
        ⟨info, _, loaded⟩ | ⟨cause, _, refused⟩
      · rw [loadBundles_cons_of_loaded passable tried loaded, later]
        rfl
      · rw [loadBundles_cons_of_refused passable tried refused, later]

/-! ### Other trees -/

theorem load_congr {decode : Value → Except Refusal α}
    (same : other.resolve path = files.resolve path) :
    load decode other path = load decode files path := by
  unfold load readList
  rw [Tree.read_congr same]

/-- A path is considered alike in trees where it and the info file in it lead to the same. -/
theorem consider_congr (looked : other.resolve path = files.resolve path)
    (described : other.resolve (path.join (.ofString settings.bundleInfoFile)) =
      files.resolve (path.join (.ofString settings.bundleInfoFile))) :
    consider other settings path = consider files settings path := by
  funext later
  unfold consider isCandidate loadBundle
  rw [Tree.isDirectory_congr looked, load_congr described]

/-- What is hidden is not looked at. -/
theorem consider_of_hidden (hidden : path.name.startsWith "." = true) (later : Found) :
    consider files settings path later = later := by
  unfold consider isCandidate
  rw [if_pos hidden]

theorem loadBundles_congr {paths : List Path}
    (same : ∀ path ∈ paths, consider other settings path = consider files settings path) :
    loadBundles other settings paths = loadBundles files settings paths := by
  induction paths with
  | nil => rfl
  | cons path rest ih =>
    have later := ih fun path member => same path (List.mem_cons_of_mem _ member)
    rw [loadBundles_cons, loadBundles_cons, later, same path List.mem_cons_self]

/-- The records of later paths have no part in the result. -/
theorem consider_fst {later further : Found} (same : later.1 = further.1) :
    (consider files settings path later).1 = (consider files settings path further).1 := by
  unfold consider
  rcases isCandidate files settings path with failure | _ | _
  · rfl
  · exact same
  · rcases loadBundle files path settings.bundleInfoFile with failure | bundle
    · cases failure with
      | fault f => exact same
      | _ => rfl
    · exact congrArg (Except.map (bundle :: ·)) same

/-- The paths that can be looked at and give no bundle. -/
def Ignored (files : Tree) (settings : Settings) (path : Path) : Prop :=
  blocks files path = false ∧
    (tries files settings path = true →
      ∃ cause, loadBundle files path settings.bundleInfoFile = .error (.fault cause))

/-- Paths that give no bundle can be left out. -/
theorem loadBundles_filter {keep : Path → Bool} {paths : List Path}
    (ignored : ∀ path ∈ paths, keep path = false → Ignored files settings path) :
    (loadBundles files settings paths).1 = (loadBundles files settings (paths.filter keep)).1 := by
  induction paths with
  | nil => rfl
  | cons path rest ih =>
    have later := ih fun path member => ignored path (List.mem_cons_of_mem _ member)
    cases kept : keep path with
    | true =>
      rw [List.filter_cons_of_pos kept, loadBundles_cons, loadBundles_cons]
      exact consider_fst later
    | false =>
      rw [List.filter_cons_of_neg (by rw [kept]; exact Bool.false_ne_true), ← later]
      obtain ⟨passable, fails⟩ := ignored path List.mem_cons_self kept
      cases tried : tries files settings path with
      | false => rw [loadBundles_cons_of_not_tries passable tried]
      | true =>
        obtain ⟨cause, refused⟩ := fails tried
        rw [loadBundles_cons_of_refused passable tried refused]

/-! ### The whole directory -/

/-- The search goes through the children of the directory in the order of their names. -/
theorem findBundles_eq (stands : files.resolve directory = .ok (.directory place)) :
    findBundles files directory settings =
      loadBundles files settings ((inOrder (files.namesIn place)).map directory.child) := by
  unfold findBundles Tree.list
  rw [stands]

/-- The search of a directory accounts for all that is tried in it, if no path in it is too long to
be looked at. -/
theorem findBundles_account (settings : Settings)
    (stands : files.resolve directory = .ok (.directory place))
    (short : ∀ name ∈ files.namesIn place, name.startsWith "." = false →
      files.isDirectory (directory.child name) ≠ .error .nameTooLong) :
    ∃ bundles log, findBundles files directory settings = (.ok bundles, log) ∧
      Account files settings.bundleInfoFile
        (((inOrder (files.namesIn place)).map directory.child).filter (tries files settings))
        bundles log := by
  rw [findBundles_eq stands]
  refine loadBundles_account fun path member => ?_
  obtain ⟨name, listed, rfl⟩ := List.mem_map.mp member
  exact blocks_child_eq_false (short name ((inOrder_perm _).mem_iff.mp listed))

/-- Names that are listed in increasing order are gone through in this order. -/
theorem findBundles_of_pairwise (stands : files.resolve directory = .ok (.directory place))
    (increasing : (files.namesIn place).Pairwise (· ≤ ·)) :
    findBundles files directory settings =
      loadBundles files settings ((files.namesIn place).map directory.child) := by
  have sorted : inOrder (files.namesIn place) = files.namesIn place :=
    List.mergeSort_of_pairwise (increasing.imp fun ordered => decide_eq_true ordered)
  rw [findBundles_eq stands, sorted]

/-- What is found depends on the entries only, and not on the order in which they are listed. -/
theorem findBundles_congr (same : ∀ l, other.lookup l = files.lookup l) (directory : Path)
    (settings : Settings) :
    findBundles other directory settings = findBundles files directory settings := by
  have resolved (path : Path) : other.resolve path = files.resolve path :=
    Tree.resolve_congr fun l _ => same l
  have listed : ∀ place, inOrder (other.namesIn place) = inOrder (files.namesIn place) :=
    fun place => inOrder_eq_of_perm (Tree.namesIn_perm same place)
  unfold findBundles Tree.list
  rw [resolved]
  rcases files.resolve directory with problem | place | ⟨place, content⟩ | place
  · cases problem <;> rfl
  · dsimp only
    rw [listed]
    exact loadBundles_congr fun path _ => consider_congr (resolved _) (resolved _)
  · rfl
  · rfl

end CodecTables.Directory
