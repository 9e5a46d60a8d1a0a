import CodecTables.Proofs.Directory.Search
import CodecTables.Proofs.Files.Characters
import CodecTables.Proofs.Generate.Build
import CodecTables.Proofs.Resource.Groups

/-!
# Finding the bundles of a directory

The search of a directory accounts for each of its children, and comes to the same whatever the
order of the listing (`discover_accounts`), as long as no path in the directory is too long to be
looked at. One such path ends the search (`discover_blocked`), although it may be that of a bundle
that would be left out (`discover_blocked_winding`).
-/

namespace CodecTables.Generate

open Directory (Account blocks findBundles inOrder load tries)
open Files (Entry Location Path Tree)
open Report (Failure Record)
open Resource (CodecBundle VendorGroup)

/-- The name is that of a directory that is neither hidden nor a package. -/
def IsTried (files : Tree) (settings : Settings) (directory : Path) (name : String) : Prop :=
  name.startsWith "." = false ∧ files.isDirectory (directory.child name) = .ok true ∧
    Text.lowercase (directory.child name).suffix ∉ settings.packageSuffixes

/-- The search tries a child just when the name counts as tried. -/
theorem tries_child_iff {files : Tree} {settings : Settings} {directory : Path} {name : String} :
    tries files settings (directory.child name) = true ↔ IsTried files settings directory name := by
  unfold tries IsTried
  rw [Path.name_child]
  rcases files.isDirectory (directory.child name) with _ | _ | _ <;> simp

/-- What the search of a directory comes to: the names that are tried in increasing order, the
account of them, and the bundles by vendor. -/
structure Discovery (files : Tree) (settings : Settings) (directory : Path) (place : Location)
    (tried : List String) (bundles : List CodecBundle) (groups : List VendorGroup)
    (log : List Record) : Prop where
  tries : ∀ name, name ∈ tried ↔
    name ∈ files.namesIn place ∧ IsTried files settings directory name
  increasing : tried.Pairwise (· < ·)
  account : Account files settings.bundleInfoFile (tried.map directory.child) bundles log
  /-- The bundles are those that can be decoded. -/
  held : ∀ bundle, bundle ∈ bundles ↔ (∃ name ∈ tried, directory.child name = bundle.path) ∧
    load Decode.codecInfo files (bundle.path.join (.ofString settings.bundleInfoFile)) =
      .ok bundle.info
  ordered : (bundles.map fun bundle => bundle.path.name).Pairwise (· < ·)
  /-- The vendors come in the order of their first bundles. -/
  vendors : groups.map VendorGroup.vendor =
    (bundles.map fun bundle => bundle.info.vendor).eraseDups
  members : ∀ group ∈ groups,
    group.bundles = bundles.filter fun bundle => bundle.info.vendor = group.vendor
  complete : (groups.flatMap VendorGroup.bundles).Perm bundles

/-- A discovery groups the bundles that the search finds, and adds to the log. -/
theorem outcome_discover (generator : Generator) (w : Workspace) :
    outcome generator.discover w =
      ((findBundles w.files generator.directory generator.settings).1.map VendorGroup.group,
        { w with
          log := w.log ++ (findBundles w.files generator.directory generator.settings).2 }) := by
  unfold Generator.discover
  rw [outcome_bind, outcome_get]
  dsimp only
  rw [outcome_bind, outcome_note]
  dsimp only
  rcases findBundles w.files generator.directory generator.settings with ⟨_ | bundles, log⟩ <;> rfl

theorem pairwise_lt_inOrder {names : List String} (distinct : names.Nodup) :
    (inOrder names).Pairwise (· < ·) := by
  have apart : (inOrder names).Nodup := (Directory.inOrder_perm names).nodup_iff.mpr distinct
  refine ((Directory.pairwise_inOrder names).and apart).imp fun {a b} ⟨ordered, other⟩ => ?_
  by_contra not
  exact other (String.le_antisymm ordered (String.not_lt.mp not))

/-- What the names of a directory that are tried come to. -/
theorem discovery_of_account {files : Tree} {settings : Settings} {directory : Path}
    {place : Location} {bundles : List CodecBundle} {log : List Record}
    (account : Account files settings.bundleInfoFile
      (((inOrder (files.namesIn place)).map directory.child).filter (tries files settings))
      bundles log) :
    Discovery files settings directory place
      ((inOrder (files.namesIn place)).filter fun name =>
        tries files settings (directory.child name))
      bundles (VendorGroup.group bundles) log := by
  have increasing := (pairwise_lt_inOrder (Tree.nodup_namesIn files place)).filter
    fun name => tries files settings (directory.child name)
  rw [List.filter_map] at account
  refine ⟨fun name => ?_, increasing, account, fun bundle => ?_, ?_, ?_, fun group member => ?_,
    VendorGroup.flatMap_group_perm bundles⟩
  · rw [List.mem_filter, (Directory.inOrder_perm _).mem_iff, tries_child_iff]
  · rw [account.mem_iff, List.mem_map]
    rfl
  · have names := account.sublist.map Path.name
    rw [List.map_map, List.map_map] at names
    refine List.Pairwise.sublist names ?_
    rw [show Path.name ∘ directory.child = id from funext (Path.name_child directory), List.map_id]
    exact increasing
  · rw [VendorGroup.group_eq, List.map_map]
    exact List.map_id' _
  · rw [VendorGroup.group_eq] at member
    obtain ⟨vendor, _, rfl⟩ := List.mem_map.mp member
    rfl

/-- The search of a directory gives its account, and it gives the same for every tree of the same
entries, however they are listed. -/
theorem discover_accounts (generator : Generator) (w : Workspace) {place : Location}
    (stands : w.files.resolve generator.directory = .ok (.directory place))
    (short : ∀ name ∈ w.files.namesIn place, name.startsWith "." = false →
      w.files.isDirectory (generator.directory.child name) ≠ .error .nameTooLong) :
    ∃ tried bundles groups log,
      Discovery w.files generator.settings generator.directory place tried bundles groups log ∧
      ∀ other : Tree, (∀ l, other.lookup l = w.files.lookup l) →
        outcome generator.discover { w with files := other } =
          (.ok groups, { w with files := other, log := w.log ++ log }) := by
  obtain ⟨bundles, log, found, account⟩ :=
    Directory.findBundles_account generator.settings stands short
  refine ⟨_, bundles, _, log, discovery_of_account account, fun other same => ?_⟩
  rw [outcome_discover, Directory.findBundles_congr same, found]
  rfl

/-- A generator without tables. -/
def searching (directory : Path) : Generator := ⟨directory, {}, ⟨[], .ofDictionary [], []⟩⟩

/-- A directory with a hidden child, a package, a plain file and a bundle without an info file. -/
def mixed : Tree where
  entries :=
    [(⟨.above 0, ["R"]⟩, .directory), (⟨.above 0, ["R", "b"]⟩, .directory),
      (⟨.above 0, ["R", "a.plist"]⟩, .file []), (⟨.above 0, ["R", ".git"]⟩, .directory),
      (⟨.above 0, ["R", "c.app"]⟩, .directory)]

/-- The account of a directory with a hidden child, a package, a plain file and a bundle. -/
theorem discover_accounts_mixed :
    ∃ tried bundles groups log,
      Discovery mixed {} ⟨"", ["R"]⟩ ⟨.above 0, ["R"]⟩ tried bundles groups log ∧
      ∀ other : Tree, (∀ l, other.lookup l = mixed.lookup l) →
        outcome (searching ⟨"", ["R"]⟩).discover ⟨other, ⟨2018, 9, 1, 12, 0, 0, 0⟩, []⟩ =
          (.ok groups, ⟨other, ⟨2018, 9, 1, 12, 0, 0, 0⟩, log⟩) := by
  have stands : mixed.resolve ⟨"", ["R"]⟩ = .ok (.directory ⟨.above 0, ["R"]⟩) := by
    rw [Tree.resolve_eq_follow (by decide) (by decide)]
    rfl
  have short : ∀ name ∈ mixed.namesIn ⟨.above 0, ["R"]⟩, name.startsWith "." = false →
      mixed.isDirectory (Path.child ⟨"", ["R"]⟩ name) ≠ .error .nameTooLong := by
    decide +kernel
  exact discover_accounts (searching ⟨"", ["R"]⟩) ⟨mixed, ⟨2018, 9, 1, 12, 0, 0, 0⟩, []⟩ stands
    short

/-! ### Paths that are too long -/

theorem visible_of_blocks {files : Tree} {path : Path} (blocked : blocks files path = true) :
    path.name.startsWith "." = false ∧ files.isDirectory path = .error .nameTooLong := by
  obtain ⟨visible, refused⟩ := Bool.and_eq_true_iff.mp blocked
  refine ⟨by simpa using visible, ?_⟩
  rcases looked : files.isDirectory path with problem | found
  · rw [Tree.eq_nameTooLong_of_isDirectory looked]
  · rw [looked] at refused
    cases refused

/-- A path that is not hidden and too long to be looked at ends the search. The first such path by
name is the one that is reported. -/
theorem discover_blocked (generator : Generator) (w : Workspace) {place : Location} {name : String}
    (stands : w.files.resolve generator.directory = .ok (.directory place))
    (listed : name ∈ w.files.namesIn place) (visible : name.startsWith "." = false)
    (long : w.files.isDirectory (generator.directory.child name) = .error .nameTooLong) :
    ∃ first ∈ w.files.namesIn place, first ≤ name ∧ (outcome generator.discover w).1 =
      .error (.inaccessible .nameTooLong (generator.directory.child first)) := by
  have blocked : blocks w.files (generator.directory.child name) = true := by
    rw [blocks, Path.name_child, visible, long]
    rfl
  have member : name ∈ inOrder (w.files.namesIn place) :=
    (Directory.inOrder_perm _).mem_iff.mpr listed
  obtain ⟨first, found⟩ : ∃ first, (inOrder (w.files.namesIn place)).find?
      (fun name => blocks w.files (generator.directory.child name)) = some first :=
    Option.isSome_iff_exists.mp (List.find?_isSome.mpr ⟨name, member, blocked⟩)
  obtain ⟨refused, before, after, split, passable⟩ := List.find?_eq_some_iff_append.mp found
  have sorted := Directory.pairwise_inOrder (w.files.namesIn place)
  rw [split] at member sorted
  refine ⟨first, (Directory.inOrder_perm _).mem_iff.mp (split ▸ List.mem_append_cons_self), ?_, ?_⟩
  · -- A name before the first one would not be refused.
    rcases List.mem_append.mp member with early | late
    · have clear := passable name early
      rw [blocked] at clear
      cases clear
    · rcases List.mem_cons.mp late with rfl | later
      · exact String.le_refl _
      · exact List.rel_of_pairwise_cons (List.pairwise_append.mp sorted).2.1 later
  · obtain ⟨shown, tooLong⟩ := visible_of_blocks refused
    have clear : ∀ path ∈ before.map generator.directory.child, blocks w.files path = false := by
      intro path inside
      obtain ⟨early, among, rfl⟩ := List.mem_map.mp inside
      simpa using passable early among
    rw [outcome_discover, Directory.findBundles_eq stands, split, List.map_append, List.map_cons]
    dsimp only
    rw [Directory.loadBundles_blocked clear shown tooLong]
    rfl

/-- A path that goes into a directory and out of it again so many times, and then stays. -/
def winding (turns : Nat) : Path := ⟨"", (List.replicate turns ["R", ".."]).flatten ++ ["R"]⟩

/-- A directory with an empty bundle. -/
def nested : Tree where
  entries := [(⟨.above 0, ["R"]⟩, .directory), (⟨.above 0, ["R", "Realtek"]⟩, .directory)]

/-- In a tree with the directory, the turns come to nothing. -/
theorem follow_winding {files : Tree} (stands : files.lookup ⟨.above 0, ["R"]⟩ = some .directory)
    (turns : Nat) :
    files.follow ⟨.above 0, []⟩ (winding turns).names = .ok (.directory ⟨.above 0, ["R"]⟩) := by
  have into : files.step ⟨.above 0, []⟩ "R" = .ok (.directory ⟨.above 0, ["R"]⟩) := by
    have entry : files.lookup (Location.child ⟨.above 0, []⟩ "R") = some .directory := stands
    rw [Tree.step_child (by decide) (by decide), entry]
    rfl
  have turn : files.follow ⟨.above 0, []⟩ ["R", ".."] = .ok (.directory ⟨.above 0, []⟩) := by
    rw [Tree.follow, into]
    rfl
  induction turns with
  | zero => exact (Tree.follow_singleton "R").trans into
  | succ turns ih =>
    unfold winding at ih ⊢
    rw [List.replicate_succ, List.flatten_cons, List.append_assoc, (Tree.follow_append turn _).1]
    exact ih

theorem lacks_winding (turns : Nat) : (winding turns).Lacks '\x00' := by
  refine ⟨List.not_mem_nil, fun name member => ?_⟩
  rcases List.mem_append.mp member with turned | last
  · obtain ⟨turn, repeated, inside⟩ := List.mem_flatten.mp turned
    rw [(List.mem_replicate.mp repeated).2] at inside
    rcases List.mem_pair.mp inside with rfl | rfl
    · decide
    · decide
  · rw [List.mem_singleton.mp last]
    decide

/-- The length of the names of a winding path grows by five with each turn. -/
theorem sum_winding (turns : Nat) :
    ((winding turns).names.map fun name => name.utf8ByteSize + 1).sum = turns * 5 + 2 := by
  have turn : (["R", ".."].map fun name => name.utf8ByteSize + 1).sum = 5 := rfl
  unfold winding
  induction turns with
  | zero => rfl
  | succ turns ih =>
    rw [List.replicate_succ, List.flatten_cons, List.append_assoc, List.map_append,
      List.sum_append_nat, turn, ih]
    omega

/-- The length of a winding path grows by five with each turn. -/
theorem size_winding (turns : Nat) : (winding turns).text.utf8ByteSize + 1 = turns * 5 + 2 := by
  rw [← sum_winding]
  exact Path.utf8ByteSize_text (List.concat_ne_nil _ _)

theorem size_child_winding (turns : Nat) (name : String) :
    ((winding turns).child name).text.utf8ByteSize = turns * 5 + 2 + name.utf8ByteSize := by
  have sizes : ((winding turns).child name).text.utf8ByteSize + 1 =
      (((winding turns).names ++ [name]).map fun name => name.utf8ByteSize + 1).sum :=
    Path.utf8ByteSize_text (List.concat_ne_nil _ _)
  rw [List.map_append, List.sum_append_nat, sum_winding, List.map_singleton,
    List.sum_singleton] at sizes
  omega

/-- A child of a winding path holds no U+0000 unless its name does. -/
theorem notMem_child_winding (turns : Nat) {name : String} (free : '\x00' ∉ name.toList) :
    '\x00' ∉ ((winding turns).child name).text.toList := by
  rw [Path.lacks_iff (by decide) (by decide)]
  refine ⟨(lacks_winding turns).1, fun other member => ?_⟩
  rcases List.mem_append.mp member with early | last
  · exact (lacks_winding turns).2 other early
  · rwa [List.mem_singleton.mp last]

/-- A winding path that is not too long leads back to where it started. -/
theorem resolve_winding {files : Tree} (stands : files.lookup ⟨.above 0, ["R"]⟩ = some .directory)
    {turns : Nat} (short : turns * 5 + 1 ≤ Tree.maxPath) :
    files.resolve (winding turns) = .ok (.directory ⟨.above 0, ["R"]⟩) := by
  have size := size_winding turns
  have free := (Path.lacks_iff (by decide) (by decide) _).mpr (lacks_winding turns)
  rw [Tree.resolve_eq_follow free (by omega)]
  exact follow_winding stands turns

/-- A child is looked up as long as the path to it is not too long. -/
theorem resolve_child_winding {files : Tree}
    (stands : files.lookup ⟨.above 0, ["R"]⟩ = some .directory) {turns : Nat} {name : String}
    (free : '\x00' ∉ name.toList) (short : turns * 5 + 2 + name.utf8ByteSize ≤ Tree.maxPath) :
    files.resolve ((winding turns).child name) = files.step ⟨.above 0, ["R"]⟩ name := by
  rw [← size_child_winding] at short
  rw [Tree.resolve_eq_follow (notMem_child_winding turns free) short, ← Tree.follow_singleton]
  exact (Tree.follow_append (follow_winding stands turns) [name]).1

/-- A child of a winding path cannot be tested if its path is too long. -/
theorem isDirectory_child_winding (files : Tree) {turns : Nat} {name : String}
    (free : '\x00' ∉ name.toList) (long : Tree.maxPath < turns * 5 + 2 + name.utf8ByteSize) :
    files.isDirectory ((winding turns).child name) = .error .nameTooLong := by
  rw [← size_child_winding] at long
  unfold Tree.isDirectory
  rw [Tree.resolve_of_long (notMem_child_winding turns free) long]

theorem namesIn_nested : nested.namesIn ⟨.above 0, ["R"]⟩ = ["Realtek"] := by decide +kernel

/-- A bundle ends the search if its path is too long, while any other bundle without an info file is
left out. -/
theorem discover_winding {turns : Nat} (short : turns * 5 + 1 ≤ Tree.maxPath)
    (long : Tree.maxPath < turns * 5 + 9) (now : Data.Moment) :
    (outcome (searching (winding turns)).discover ⟨nested, now, []⟩).1 =
      .error (.inaccessible .nameTooLong ((winding turns).child "Realtek")) := by
  have stands := @resolve_winding nested rfl turns short
  have refused := @isDirectory_child_winding nested turns "Realtek" (by decide) long
  have listed : "Realtek" ∈ nested.namesIn ⟨.above 0, ["R"]⟩ := by
    rw [namesIn_nested]
    exact List.mem_singleton_self _
  obtain ⟨first, member, _, failed⟩ :=
    discover_blocked (searching (winding turns)) ⟨nested, now, []⟩ stands listed (by decide +kernel)
      refused
  rw [namesIn_nested] at member
  rw [failed, List.mem_singleton.mp member]
  rfl

/-- A path that winds 818 times exists, but its search ends at its first child. -/
theorem discover_blocked_winding :
    nested.resolve (winding 818) = .ok (.directory ⟨.above 0, ["R"]⟩) ∧
      (outcome (searching (winding 818)).discover ⟨nested, ⟨2018, 9, 1, 12, 0, 0, 0⟩, []⟩).1 =
        .error (.inaccessible .nameTooLong ((winding 818).child "Realtek")) :=
  ⟨resolve_winding rfl (by decide), discover_winding (by decide) (by decide) _⟩

end CodecTables.Generate
