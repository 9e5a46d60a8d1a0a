import CodecTables.Proofs.Compile.Agreement
import CodecTables.Proofs.Generate.Result

/-!
# Entries that are ignored

What stands in a resource directory without being a table, a codec bundle or a file of one has no
part in what is generated: neither in the text nor in the failure (`generate_ignores`). Only the
path of such an entry must not be too long to be looked at, since that ends the search for bundles
and no text is generated (`sourceText_blocked`).
-/

namespace CodecTables.Generate

open Data (Moment)
open Directory (Ignored Tables consider findBundles inOrder load loadBundle loadBundles tries)
open Files (Entry Location Path Tree)
open Report (Failure Record)
open Resource (CodecBundle VendorGroup)

/-- The second tree has more children in a directory, and is the same elsewhere. -/
structure Adds (files more : Tree) (place : Location) (added : List String) : Prop where
  new : ∀ name ∈ added, files.lookup (place.child name) = none
  same : ∀ l, (∀ name ∈ added, ¬ l.Within (place.child name)) → more.lookup l = files.lookup l

/-- A child that gives no bundle. -/
inductive Ignorable (files : Tree) (settings : Settings) (directory : Path) (place : Location)
    (name : String) : Prop
  | file {content : List UInt8} (stands : files.lookup (place.child name) = some (.file content))
  | hidden (point : name.startsWith "." = true)
  | package (stands : files.lookup (place.child name) = some .directory)
      (suffix : Text.lowercase (directory.child name).suffix ∈ settings.packageSuffixes)
  | undecodable {failure : Failure} (stands : files.lookup (place.child name) = some .directory)
      (failed : load Decode.codecInfo files
        ((directory.child name).join (.ofString settings.bundleInfoFile)) = .error failure)

/-- The names of the table files. -/
def tableFiles (settings : Settings) : List String :=
  [settings.codecLookupFile, settings.controllersFile, settings.kextsFile]

/-- The bundles of a directory that can be decoded. -/
def decodable (files : Tree) (directory : Path) (settings : Settings) : List CodecBundle :=
  (findBundles files directory settings).1.toOption.getD []

section

variable {files more : Tree} {directory : Path} {place : Location} {added : List String}
  {settings : Settings}

/-! ### Paths that pass no added child -/

theorem child_ne_of_le {l : Location} (place : Location) (name : String)
    (above : l.names.length ≤ place.names.length) : place.child name ≠ l := by
  rintro rfl
  rw [Location.length_child] at above
  omega

/-- A path that passes none of the added names leads where it led. -/
theorem resolve_of_avoids (adds : Adds files more place added) {path : Path}
    (avoids : ∀ name ∈ added, place.child name ∉ files.passes path) :
    more.resolve path = files.resolve path := by
  refine Tree.resolve_eq_of_avoids (added.map place.child) ?_ ?_ ?_
  · intro top member
    obtain ⟨name, _, rfl⟩ := List.mem_map.mp member
    exact List.concat_ne_nil name place.names
  · intro l outside
    exact adds.same l fun name member => outside _ (List.mem_map_of_mem member)
  · intro top member
    obtain ⟨name, inside, rfl⟩ := List.mem_map.mp member
    exact avoids name inside

/-- The way to the directory itself passes no added child, since nothing stood there before. -/
theorem avoids_directory (stands : files.resolve directory = .ok (.directory place))
    (adds : Adds files more place added) :
    ∀ name ∈ added, place.child name ∉ files.passes directory := by
  intro name member
  have named : (place.child name).names ≠ [] := List.concat_ne_nil name place.names
  exact Tree.notMem_passed_of_vacant named (adds.new name member)
    (Location.not_within_start named directory) (Tree.follow_of_resolve stands)

/-- Names are followed alike from the directory on if they pass no added child. -/
theorem resolve_names (stands : files.resolve directory = .ok (.directory place))
    (adds : Adds files more place added) {names : List String}
    (avoids : ∀ name ∈ added, place.child name ∉ files.passed place names) :
    more.resolve (directory.join ⟨"", names⟩) = files.resolve (directory.join ⟨"", names⟩) := by
  refine resolve_of_avoids adds fun name member passed => ?_
  rw [Tree.passes_join stands rfl] at passed
  rcases List.mem_append.mp passed with before | after
  · exact avoids_directory stands adds name member before
  · exact avoids name member after

/-- A child of the directory that was there before. -/
theorem resolve_name (stands : files.resolve directory = .ok (.directory place))
    (adds : Adds files more place added) {other : String} (before : other ∉ added) :
    more.resolve (directory.join ⟨"", [other]⟩) = files.resolve (directory.join ⟨"", [other]⟩) := by
  refine resolve_names stands adds fun name member passed => ?_
  rcases Tree.mem_passed_cons passed with ⟨_, up | nothing⟩ | child | nothing
  · exact child_ne_of_le place name place.length_parent_le up
  · exact List.not_mem_nil nothing
  · exact before (Location.child_injective child ▸ member)
  · exact List.not_mem_nil nothing

/-- A file of the directory whose name is not that of an added child. -/
theorem resolve_file (stands : files.resolve directory = .ok (.directory place))
    (adds : Adds files more place added) {file : String} (single : '/' ∉ file.toList)
    (before : file ∉ added) :
    more.resolve (directory.join (.ofString file)) =
      files.resolve (directory.join (.ofString file)) := by
  rcases Path.ofString_of_notMem single with here | named
  · rw [here]
    exact resolve_names stands adds fun name _ => List.not_mem_nil
  · rw [named]
    exact resolve_name stands adds before

/-- A file in a child of the directory that was there before. -/
theorem resolve_inner (stands : files.resolve directory = .ok (.directory place))
    (adds : Adds files more place added) {other file : String} (single : '/' ∉ file.toList)
    (counts : other ≠ "..") (before : other ∉ added) :
    more.resolve ((directory.child other).join (.ofString file)) =
      files.resolve ((directory.child other).join (.ofString file)) := by
  rcases Path.ofString_of_notMem single with here | named
  · rw [here, Path.child_join]
    exact resolve_name stands adds before
  · rw [named, Path.child_join]
    refine resolve_names stands adds fun name member passed => ?_
    rcases Tree.mem_passed_cons passed with ⟨up, _⟩ | child | further
    · exact counts up
    · exact before (Location.child_injective child ▸ member)
    rcases Tree.mem_passed_cons further with ⟨_, up | nothing⟩ | child | nothing
    · rw [Location.parent_child] at up
      exact child_ne_of_le place name (Nat.le_refl _) up
    · exact List.not_mem_nil nothing
    · have lengths := congrArg (fun l => l.names.length) child
      simp only [Location.length_child] at lengths
      omega
    · exact List.not_mem_nil nothing

/-! ### The same bundles -/

theorem lookup_eq_of_notMem (adds : Adds files more place added) {name : String}
    (before : name ∉ added) : more.lookup (place.child name) = files.lookup (place.child name) := by
  refine adds.same _ fun other member within => before ?_
  have names := within.2.eq_of_length (by rw [Location.length_child, Location.length_child])
  rwa [List.singleton_inj.mp (List.append_cancel_left names)] at member

/-- The names that were there before are the names without the added ones. -/
theorem names_eq (adds : Adds files more place added) :
    (inOrder (more.namesIn place)).filter (fun name => name ∉ added) =
      inOrder (files.namesIn place) := by
  have distinct : ((inOrder (more.namesIn place)).filter fun name => name ∉ added).Nodup :=
    ((Directory.inOrder_perm _).nodup_iff.mpr (Tree.nodup_namesIn more place)).filter _
  have others : (inOrder (files.namesIn place)).Nodup :=
    (Directory.inOrder_perm _).nodup_iff.mpr (Tree.nodup_namesIn files place)
  refine List.Perm.eq_of_pairwise (fun _ _ _ _ => String.le_antisymm)
    ((Directory.pairwise_inOrder _).filter _) (Directory.pairwise_inOrder _) ?_
  refine (List.perm_ext_iff_of_nodup distinct others).mpr fun name => ?_
  rw [List.mem_filter, (Directory.inOrder_perm _).mem_iff, (Directory.inOrder_perm _).mem_iff,
    Tree.mem_namesIn, Tree.mem_namesIn, decide_eq_true_iff]
  constructor
  · rintro ⟨stands, before⟩
    rwa [lookup_eq_of_notMem adds before] at stands
  · intro stands
    have before : name ∉ added := by
      intro member
      rw [adds.new name member] at stands
      cases stands
    rw [lookup_eq_of_notMem adds before]
    exact ⟨stands, before⟩

theorem ne_up_of_visible {name : String} (visible : name.startsWith "." = false) : name ≠ ".." := by
  rintro rfl
  have hidden : "..".startsWith "." = true := by decide +kernel
  rw [hidden] at visible
  cases visible

/-- An added child is no bundle. -/
theorem ignored_of_ignorable (stands : more.resolve directory = .ok (.directory place))
    {name : String} (ignorable : Ignorable more settings directory place name)
    (short : name.startsWith "." = false →
      more.isDirectory (directory.child name) ≠ .error .nameTooLong) :
    Ignored more settings (directory.child name) := by
  refine ⟨Directory.blocks_child_eq_false short, fun tried => ?_⟩
  obtain ⟨visible, isDirectory, suffix⟩ := tries_child_iff.mp tried
  cases ignorable with
  | file is_file =>
    have directory := Tree.lookup_of_isDirectory stands (ne_up_of_visible visible) isDirectory
    rw [is_file] at directory
    cases directory
  | hidden point =>
    rw [visible] at point
    cases point
  | package _ listed => exact absurd listed suffix
  | undecodable _ failed =>
    rcases Directory.loadBundle_cases more (directory.child name) settings.bundleInfoFile with
      ⟨info, decoded, _⟩ | ⟨cause, _, refused⟩
    · rw [failed] at decoded
      cases decoded
    · exact ⟨_, refused⟩

/-- The search finds the same bundles with the ignorable entries as without them. -/
theorem findBundles_fst (stands : files.resolve directory = .ok (.directory place))
    (adds : Adds files more place added)
    (ignorable : ∀ name ∈ added, Ignorable more settings directory place name)
    (short : ∀ name ∈ added, name.startsWith "." = false →
      more.isDirectory (directory.child name) ≠ .error .nameTooLong)
    (single : '/' ∉ settings.bundleInfoFile.toList) :
    (findBundles more directory settings).1 = (findBundles files directory settings).1 := by
  have there : more.resolve directory = .ok (.directory place) := by
    rw [resolve_of_avoids adds (avoids_directory stands adds), stands]
  have ignored : ∀ path ∈ (inOrder (more.namesIn place)).map directory.child,
      decide (path.name ∉ added) = false → Ignored more settings path := by
    intro path member new
    obtain ⟨name, _, rfl⟩ := List.mem_map.mp member
    rw [Path.name_child, decide_eq_false_iff_not, not_not] at new
    exact ignored_of_ignorable there (ignorable name new) (short name new)
  rw [Directory.findBundles_eq there, Directory.findBundles_eq stands,
    Directory.loadBundles_filter ignored, List.filter_map,
    List.filter_congr fun name _ => by rw [Function.comp_apply, Path.name_child], names_eq adds]
  refine congrArg Prod.fst (Directory.loadBundles_congr fun path member => ?_)
  obtain ⟨name, listed, rfl⟩ := List.mem_map.mp member
  -- The names that are left are those that were there before.
  have before : name ∉ added := by
    intro inside
    have stands := Tree.mem_namesIn.mp ((Directory.inOrder_perm _).mem_iff.mp listed)
    rw [adds.new name inside] at stands
    cases stands
  cases hidden : name.startsWith "." with
  | true =>
    have path : (directory.child name).name.startsWith "." = true := by rw [Path.name_child, hidden]
    funext later
    rw [Directory.consider_of_hidden path, Directory.consider_of_hidden path]
  | false =>
    exact Directory.consider_congr (resolve_name stands adds before)
      (resolve_inner stands adds single (ne_up_of_visible hidden) before)

/-! ### The same tables and files -/

/-- The tables are read alike. -/
theorem load_tables_eq (stands : files.resolve directory = .ok (.directory place))
    (adds : Adds files more place added)
    (single : ∀ file ∈ tableFiles settings, '/' ∉ file.toList)
    (tables : ∀ name ∈ added, name ∉ tableFiles settings) :
    Tables.load more directory settings = Tables.load files directory settings := by
  have same : ∀ file ∈ tableFiles settings,
      more.resolve (directory.join (.ofString file)) =
        files.resolve (directory.join (.ofString file)) := fun file member =>
    resolve_file stands adds (single file member) fun new => tables file new member
  unfold Tables.load
  dsimp only
  rw [Directory.load_congr (same _ List.mem_cons_self),
    Directory.load_congr (same _ (List.mem_cons_of_mem _ List.mem_cons_self)),
    Directory.load_congr
      (same _ (List.mem_cons_of_mem _ (List.mem_cons_of_mem _ List.mem_cons_self)))]

/-- Bundles whose files give the same are compiled alike. -/
theorem compiled_congr (generator : Generator) {groups : List VendorGroup}
    (same : ∀ bundle ∈ groups.flatMap VendorGroup.bundles,
      Compile.SameReads files more bundle.path bundle.info.files) (lines : List String) :
    compiled generator groups more lines = compiled generator groups files lines := by
  have tables := Compile.vendorTable_congr Compile.directory_buffer same
  have each : ∀ entity ∈ Generator.entities generator.tables groups,
      Compile.entityWith Compile.buffer more entity =
        Compile.entityWith Compile.buffer files entity := by
    intro entity member
    rcases List.mem_cons.mp member with rfl | member
    · rfl
    rcases List.mem_cons.mp member with rfl | member
    · rfl
    rcases List.mem_cons.mp member with rfl | member
    · rw [Compile.entityWith, tables]
      rfl
    · rw [List.mem_singleton.mp member]
      rfl
  unfold compiled Compile.visits visitsOf
  rw [List.mapM_map, List.mapM_map]
  exact congrArg (Compile.outcome · (opened generator.settings lines)) (Compile.mapM_congr each)

end

/-- Children that are no tables and give no bundles, and through which no codec file is reached,
have no part in what is generated. -/
theorem generate_ignores {files more : Tree} {directory : Path} {place : Location}
    {added : List String} {settings : Settings} {moment : Moment}
    (stands : files.resolve directory = .ok (.directory place))
    (adds : Adds files more place added)
    (ignorable : ∀ name ∈ added, Ignorable more settings directory place name)
    (short : ∀ name ∈ added, name.startsWith "." = false →
      more.isDirectory (directory.child name) ≠ .error .nameTooLong)
    (tables : ∀ name ∈ added, name ∉ tableFiles settings)
    (single : ∀ file ∈ settings.bundleInfoFile :: tableFiles settings, '/' ∉ file.toList)
    (apart : ∀ bundle ∈ decodable files directory settings,
      ∀ file ∈ bundle.info.files.layouts ++ bundle.info.files.platforms,
        ∀ name ∈ added, place.child name ∉ files.passes (bundle.path.join (.ofString file.path)))
    (timed : settings.timestamp = some moment) (now later : Moment) (log further : List Record) :
    (outcome (loadAndGenerate directory settings) ⟨more, later, further⟩).1 =
      (outcome (loadAndGenerate directory settings) ⟨files, now, log⟩).1 := by
  obtain ⟨_, given⟩ := outcome_loadAndGenerate directory settings ⟨files, now, log⟩
  obtain ⟨_, others⟩ := outcome_loadAndGenerate directory settings ⟨more, later, further⟩
  have early := load_tables_eq stands adds
    (fun file member => single file (List.mem_cons_of_mem _ member)) tables
  have found := findBundles_fst stands adds ignorable short (single _ List.mem_cons_self)
  have time (moment : Moment) : settings.time moment = settings.time now := by
    unfold Settings.time
    rw [timed]
    rfl
  rw [given, others]
  dsimp only
  unfold sourceText
  rw [early]
  rcases Tables.load files directory settings with failure | loaded
  · rfl
  dsimp only
  unfold foundText
  rw [found]
  rcases bundled : (findBundles files directory settings).1 with failure | bundles
  · rfl
  dsimp only
  unfold textOf
  dsimp only
  rw [time later]
  rcases banner settings (settings.time now) with excess | lines
  · rfl
  dsimp only
  rw [compiled_congr]
  intro bundle member file listed
  have inside : bundle ∈ decodable files directory settings := by
    rw [decodable, bundled]
    exact (VendorGroup.flatMap_group_perm bundles).mem_iff.mp member
  exact Tree.read_congr (resolve_of_avoids adds (apart bundle inside file listed))

/-- The binary property list of the codec ALC269 of Realtek with the layout `layout1.xml`. -/
def codecList : List UInt8 :=
  [98, 112, 108, 105, 115, 116, 48, 48, 212, 1, 2, 3, 4, 5, 6, 7, 8, 86, 86, 101, 110, 100,
    111, 114, 89, 67, 111, 100, 101, 99, 78, 97, 109, 101, 87, 67, 111, 100, 101, 99, 73, 68,
    85, 70, 105, 108, 101, 115, 87, 82, 101, 97, 108, 116, 101, 107, 86, 65, 76, 67, 50, 54,
    57, 17, 2, 105, 209, 9, 10, 87, 76, 97, 121, 111, 117, 116, 115, 161, 11, 210, 12, 13,
    14, 15, 82, 73, 100, 84, 80, 97, 116, 104, 16, 1, 91, 108, 97, 121, 111, 117, 116, 49,
    46, 120, 109, 108, 8, 17, 24, 34, 42, 48, 56, 63, 66, 69, 77, 79, 84, 87, 92, 94, 0, 0,
    0, 0, 0, 0, 1, 1, 0, 0, 0, 0, 0, 0, 0, 16, 0, 0, 0, 0, 0, 0, 0, 0, 0, 0, 0, 0, 0, 0, 0,
    106]

/-- A directory with a codec bundle of one file. -/
def oneCodec : List (Location × Entry) :=
  [(⟨.above 0, ["R"]⟩, .directory), (⟨.above 0, ["R", "ALC269"]⟩, .directory),
    (⟨.above 0, ["R", "ALC269", "layout1.xml"]⟩, .file [60, 62]),
    (⟨.above 0, ["R", "ALC269", "Info.plist"]⟩, .file codecList)]

/-- A binary property list of an empty array. -/
def emptyArray : List UInt8 :=
  [98, 112, 108, 105, 115, 116, 48, 48, 160, 8, 0, 0, 0, 0, 0, 0, 1, 1, 0, 0, 0, 0, 0, 0, 0, 1, 0,
    0, 0, 0, 0, 0, 0, 0, 0, 0, 0, 0, 0, 0, 0, 9]

/-- A binary property list of an empty dictionary. -/
def emptyDict : List UInt8 :=
  [98, 112, 108, 105, 115, 116, 48, 48, 208, 8, 0, 0, 0, 0, 0, 0, 1, 1, 0, 0, 0, 0, 0, 0, 0, 1, 0,
    0, 0, 0, 0, 0, 0, 0, 0, 0, 0, 0, 0, 0, 0, 9]

/-- The files of tables, of which only the lookup table may hold something. -/
def tablesWith (lookup : List UInt8) : List (Location × Entry) :=
  [(⟨.above 0, ["R", "CodecLookup.plist"]⟩, .file lookup),
    (⟨.above 0, ["R", "Controllers.plist"]⟩, .file emptyArray),
    (⟨.above 0, ["R", "Kexts.plist"]⟩, .file emptyDict)]

/-- A directory of empty tables and a bundle with one file. -/
def furnished : List (Location × Entry) := oneCodec ++ tablesWith emptyArray

/-- One entry of each kind that is ignored. -/
def clutter : List (Location × Entry) :=
  [(⟨.above 0, ["R", "README"]⟩, .file [82]), (⟨.above 0, ["R", ".git"]⟩, .directory),
    (⟨.above 0, ["R", ".git", "HEAD"]⟩, .file []), (⟨.above 0, ["R", "Old.kext"]⟩, .directory),
    (⟨.above 0, ["R", "Broken"]⟩, .directory)]

/-- Settings with a fixed time. -/
def timed : Settings := { timestamp := some ⟨2018, 9, 1, 12, 0, 0, 0⟩ }

/-- The names in the directory that are new. -/
def clutterNames : List String := ["README", ".git", "Old.kext", "Broken"]

theorem within_clutter : ∀ entry ∈ clutter,
    ∃ name ∈ clutterNames, entry.1.Within (Location.child ⟨.above 0, ["R"]⟩ name) := by
  unfold Location.Within
  decide

theorem adds_clutter : Adds ⟨furnished⟩ ⟨furnished ++ clutter⟩ ⟨.above 0, ["R"]⟩ clutterNames where
  new := by
    intro name member
    rw [← Option.isNone_iff_eq_none]
    revert name
    decide +kernel
  same l outside := by
    refine Tree.lookup_append fun entry member here => ?_
    obtain ⟨name, inside, within⟩ := within_clutter entry member
    exact outside name inside (here ▸ within)

theorem ignorable_clutter : ∀ name ∈ clutterNames,
    Ignorable ⟨furnished ++ clutter⟩ timed ⟨"", ["R"]⟩ ⟨.above 0, ["R"]⟩ name := by
  obtain ⟨failure, failed⟩ : ∃ failure, load Decode.codecInfo ⟨furnished ++ clutter⟩
      (Path.join ⟨"", ["R", "Broken"]⟩ (.ofString "Info.plist")) = .error failure :=
    Decode.exists_error_of_isOk_eq_false (by decide +kernel)
  intro name member
  rcases List.mem_cons.mp member with rfl | member
  · exact .file rfl
  rcases List.mem_cons.mp member with rfl | member
  · exact .hidden (by decide +kernel)
  rcases List.mem_cons.mp member with rfl | member
  · exact .package rfl (by decide +kernel)
  · rw [List.mem_singleton.mp member]
    exact .undecodable rfl failed

theorem resolve_furnished :
    (Tree.mk furnished).resolve ⟨"", ["R"]⟩ = .ok (.directory ⟨.above 0, ["R"]⟩) := by
  rw [Tree.resolve_eq_follow (by decide) (by decide)]
  rfl

/-- A text is generated from the tables and the bundle. -/
theorem sourceText_furnished :
    ∃ text, sourceText ⟨furnished⟩ ⟨2018, 10, 1, 12, 0, 0, 0⟩ ⟨"", ["R"]⟩ timed = .ok text := by
  have generated :
      (sourceText ⟨furnished⟩ ⟨2018, 10, 1, 12, 0, 0, 0⟩ ⟨"", ["R"]⟩ timed).isOk = true := by
    unfold sourceText foundText
    dsimp only
    rw [Directory.findBundles_of_pairwise resolve_furnished (by decide +kernel)]
    decide +kernel
  exact Decode.exists_ok_of_isOk generated

/-- The text of a directory with tables and a bundle is the same with an entry of each kind that is
ignored. -/
theorem generate_ignores_clutter : ∃ text,
    (outcome (loadAndGenerate ⟨"", ["R"]⟩ timed)
      ⟨⟨furnished⟩, ⟨2018, 10, 1, 12, 0, 0, 0⟩, []⟩).1 = .ok text ∧
    (outcome (loadAndGenerate ⟨"", ["R"]⟩ timed)
      ⟨⟨furnished ++ clutter⟩, ⟨2019, 3, 1, 8, 30, 0, 0⟩, []⟩).1 = .ok text := by
  have short : ∀ name ∈ clutterNames, name.startsWith "." = false →
      (Tree.mk (furnished ++ clutter)).isDirectory (Path.child ⟨"", ["R"]⟩ name) ≠
        .error .nameTooLong := by
    decide +kernel
  have apart : ∀ bundle ∈ decodable ⟨furnished⟩ ⟨"", ["R"]⟩ timed,
      ∀ file ∈ bundle.info.files.layouts ++ bundle.info.files.platforms,
        ∀ name ∈ clutterNames, Location.child ⟨.above 0, ["R"]⟩ name ∉
          (Tree.mk furnished).passes (bundle.path.join (.ofString file.path)) := by
    unfold decodable
    rw [Directory.findBundles_of_pairwise resolve_furnished (by decide +kernel)]
    decide +kernel
  obtain ⟨text, made⟩ := sourceText_furnished
  obtain ⟨_, given⟩ := outcome_loadAndGenerate ⟨"", ["R"]⟩ timed
    ⟨⟨furnished⟩, ⟨2018, 10, 1, 12, 0, 0, 0⟩, []⟩
  have whole : (outcome (loadAndGenerate ⟨"", ["R"]⟩ timed)
      ⟨⟨furnished⟩, ⟨2018, 10, 1, 12, 0, 0, 0⟩, []⟩).1 = .ok text := by
    rw [given]
    exact made
  refine ⟨text, whole, ?_⟩
  rw [← whole]
  exact generate_ignores resolve_furnished adds_clutter ignorable_clutter short (by decide)
    (by decide) apart rfl _ _ [] []

/-! ### Paths that are too long -/

/-- Without a path that is too long there is no bundle in a directory of plain files. -/
theorem findBundles_of_plain {files : Tree} {directory : Path} {place : Location}
    (settings : Settings) (stands : files.resolve directory = .ok (.directory place))
    (plain : ∀ name ∈ files.namesIn place, ∃ content,
      files.lookup (place.child name) = some (.file content))
    (short : ∀ name ∈ files.namesIn place,
      files.isDirectory (directory.child name) ≠ .error .nameTooLong) :
    (findBundles files directory settings).1 = .ok [] := by
  have ignored : ∀ path ∈ (inOrder (files.namesIn place)).map directory.child,
      (fun _ => false) path = false → Ignored files settings path := by
    intro path member _
    obtain ⟨name, listed, rfl⟩ := List.mem_map.mp member
    have inside := (Directory.inOrder_perm _).mem_iff.mp listed
    obtain ⟨_, here⟩ := plain name inside
    exact ignored_of_ignorable stands (.file here) fun _ => short name inside
  have none := @Directory.loadBundles_filter files settings (fun _ => false) _ ignored
  rw [Directory.findBundles_eq stands, none, List.filter_false]
  rfl

/-- A child that is not hidden ends the search if its path is too long, and nothing is generated,
whatever the child is. -/
theorem sourceText_blocked {files : Tree} {directory : Path} {place : Location} {name : String}
    {settings : Settings} {tables : Tables}
    (stands : files.resolve directory = .ok (.directory place))
    (loaded : Tables.load files directory settings = .ok tables)
    (listed : name ∈ files.namesIn place) (visible : name.startsWith "." = false)
    (long : files.isDirectory (directory.child name) = .error .nameTooLong) (now : Moment) :
    ∃ first ∈ files.namesIn place, first ≤ name ∧ sourceText files now directory settings =
      .error (.inaccessible .nameTooLong (directory.child first)) := by
  obtain ⟨first, member, before, failed⟩ :=
    discover_blocked ⟨directory, settings, tables⟩ ⟨files, now, []⟩ stands listed visible long
  refine ⟨first, member, before, ?_⟩
  rw [outcome_discover] at failed
  unfold sourceText
  rw [loaded]
  dsimp only [foundText] at failed ⊢
  rcases found : findBundles files directory settings with ⟨failure | bundles, log⟩
  · rw [found] at failed
    exact congrArg Except.error (Except.error.inj failed)
  · rw [found] at failed
    cases failed

/-- Tables are loaded from wherever their files are read. -/
theorem loadTables_of_read {files : Tree} {directory other : Path} {settings : Settings}
    {tables : Tables}
    (same : ∀ file ∈ tableFiles settings,
      files.read (other.join (.ofString file)) = files.read (directory.join (.ofString file)))
    (loaded : Tables.load files directory settings = .ok tables) :
    Tables.load files other settings = .ok tables := by
  obtain ⟨lookup, controllers, kexts⟩ :=
    (Directory.loadTables_eq_ok files directory settings tables).mp loaded
  refine (Directory.loadTables_eq_ok files other settings tables).mpr
    ⟨Directory.load_of_read (same _ List.mem_cons_self) lookup,
      Directory.load_of_read (same _ (List.mem_cons_of_mem _ List.mem_cons_self)) controllers,
      Directory.load_of_read
        (same _ (List.mem_cons_of_mem _ (List.mem_cons_of_mem _ List.mem_cons_self))) kexts⟩

/-- A directory of empty tables. -/
def tabled : List (Location × Entry) := (⟨.above 0, ["R"]⟩, .directory) :: tablesWith emptyArray

/-- A plain file beside the tables. -/
def beside : List (Location × Entry) :=
  [(⟨.above 0, ["R", "a plain file beside.txt"]⟩, .file [120])]

theorem namesIn_tabled :
    (Tree.mk tabled).namesIn ⟨.above 0, ["R"]⟩ = tableFiles timed := by decide +kernel

/-- Each table is a file of the directory, whose name has only one part and is short. -/
theorem tabled_tableFiles : ∀ name ∈ tableFiles timed,
    Path.ofString name = ⟨"", [name]⟩ ∧ '\x00' ∉ name.toList ∧ name.utf8ByteSize ≤ 17 ∧
      ∃ content, (Tree.mk tabled).lookup (Location.child ⟨.above 0, ["R"]⟩ name) =
        some (.file content) := by
  intro name member
  simp only [tableFiles, timed, List.mem_cons, List.not_mem_nil, or_false] at member
  rcases member with rfl | rfl | rfl <;>
    exact ⟨by decide +kernel, by decide, by decide, _, rfl⟩

/-- A table is still reached on a path that winds so many times. -/
theorem resolve_table {name : String} (member : name ∈ tableFiles timed) :
    ∃ content, ∀ turns ≤ 815, (Tree.mk tabled).resolve ((winding turns).child name) =
      .ok (.file ⟨.above 0, ["R", name]⟩ content) := by
  obtain ⟨_, free, size, content, stands⟩ := tabled_tableFiles name member
  refine ⟨content, fun turns few => ?_⟩
  have short : turns * 5 + 2 + name.utf8ByteSize ≤ Tree.maxPath := by
    unfold Tree.maxPath
    omega
  have counts : name ≠ ".." := by
    rintro rfl
    cases stands
  have fits : name.utf8ByteSize ≤ Tree.maxName := by
    unfold Tree.maxName
    omega
  rw [resolve_child_winding rfl free short, Tree.step_child counts fits, stands]
  rfl

section

variable {turns : Nat}

/-- The tables that are loaded on a straight path are loaded on one that winds, too. -/
theorem loadTables_winding (few : turns ≤ 815) {tables : Tables}
    (loaded : Tables.load ⟨tabled⟩ ⟨"", ["R"]⟩ timed = .ok tables) :
    Tables.load ⟨tabled⟩ (winding turns) timed = .ok tables := by
  refine loadTables_of_read (fun file member => ?_) loaded
  obtain ⟨content, reached⟩ := resolve_table member
  have straight : (Tree.mk tabled).resolve (Path.child ⟨"", ["R"]⟩ file) = _ :=
    reached 0 (Nat.zero_le _)
  have child (directory : Path) : directory.join (.ofString file) = directory.child file := by
    rw [(tabled_tableFiles file member).1]
    rfl
  rw [child, child]
  unfold Tree.read
  rw [reached turns few, straight]

theorem resolve_winding_tabled (few : turns ≤ 815) :
    (Tree.mk tabled).resolve (winding turns) = .ok (.directory ⟨.above 0, ["R"]⟩) := by
  refine resolve_winding rfl ?_
  unfold Tree.maxPath
  omega

theorem findBundles_tabled (few : turns ≤ 815) :
    (findBundles ⟨tabled⟩ (winding turns) timed).1 = .ok [] := by
  refine findBundles_of_plain timed (resolve_winding_tabled few) ?_ ?_
  · rw [namesIn_tabled]
    exact fun name member => (tabled_tableFiles name member).2.2.2
  · rw [namesIn_tabled]
    intro name member
    obtain ⟨_, reached⟩ := resolve_table member
    unfold Tree.isDirectory
    rw [reached turns few]
    exact nofun

/-- The empty tables have a text, whatever the path to their directory is. -/
theorem textOf_tabled (now : Moment) :
    ∃ tables, Tables.load ⟨tabled⟩ ⟨"", ["R"]⟩ timed = .ok tables ∧
      ∃ text, ∀ directory, textOf ⟨tabled⟩ now ⟨directory, timed, tables⟩ [] = .ok text := by
  have printed : ((Tables.load ⟨tabled⟩ ⟨"", ["R"]⟩ timed).toOption.bind fun tables =>
      (textOf ⟨tabled⟩ ⟨2018, 9, 1, 12, 0, 0, 0⟩ ⟨⟨"", ["R"]⟩, timed, tables⟩ []).toOption).isSome =
        true := by
    decide +kernel
  rcases loaded : Tables.load ⟨tabled⟩ ⟨"", ["R"]⟩ timed with failure | tables
  · rw [loaded] at printed
    cases printed
  · refine ⟨tables, rfl, ?_⟩
    rcases made : textOf ⟨tabled⟩ ⟨2018, 9, 1, 12, 0, 0, 0⟩ ⟨⟨"", ["R"]⟩, timed, tables⟩ [] with
      failure | text
    · simp [loaded, made, Except.toOption] at printed
    · exact ⟨text, fun directory => made⟩

theorem adds_beside :
    Adds ⟨tabled⟩ ⟨tabled ++ beside⟩ ⟨.above 0, ["R"]⟩ ["a plain file beside.txt"] where
  new := by
    intro name member
    rw [List.mem_singleton.mp member]
    rfl
  same l outside := by
    refine Tree.lookup_append fun entry member here => ?_
    rw [List.mem_singleton.mp member] at here
    exact outside _ (List.mem_singleton_self _) (here ▸ ⟨rfl, List.prefix_rfl⟩)

/-- The text of the empty tables is generated, but not if there is a plain file beside them to which
the path is too long. -/
theorem generate_winding (few : turns ≤ 815) (many : 815 ≤ turns) (now : Moment) :
    (∃ text, (outcome (loadAndGenerate (winding turns) timed) ⟨⟨tabled⟩, now, []⟩).1 = .ok text) ∧
    ∃ path, (outcome (loadAndGenerate (winding turns) timed) ⟨⟨tabled ++ beside⟩, now, []⟩).1 =
      .error (.inaccessible .nameTooLong path) := by
  obtain ⟨tables, straight, text, made⟩ := textOf_tabled now
  have loaded := loadTables_winding few straight
  obtain ⟨_, given⟩ := outcome_loadAndGenerate (winding turns) timed ⟨⟨tabled⟩, now, []⟩
  obtain ⟨_, more⟩ := outcome_loadAndGenerate (winding turns) timed ⟨⟨tabled ++ beside⟩, now, []⟩
  rw [given, more]
  constructor
  · refine ⟨text, ?_⟩
    unfold sourceText foundText
    dsimp only
    rw [loaded]
    dsimp only
    rw [findBundles_tabled few]
    exact made (winding turns)
  · have alike : Tables.load ⟨tabled ++ beside⟩ (winding turns) timed = .ok tables := by
      rw [load_tables_eq (resolve_winding_tabled few) adds_beside (by decide) (by decide), loaded]
    have stands : (Tree.mk (tabled ++ beside)).resolve (winding turns) =
        .ok (.directory ⟨.above 0, ["R"]⟩) :=
      resolve_winding rfl (by unfold Tree.maxPath; omega)
    have listed : "a plain file beside.txt" ∈
        (Tree.mk (tabled ++ beside)).namesIn ⟨.above 0, ["R"]⟩ :=
      Tree.mem_namesIn.mpr rfl
    have size : "a plain file beside.txt".utf8ByteSize = 23 := rfl
    have long := @isDirectory_child_winding ⟨tabled ++ beside⟩ turns "a plain file beside.txt"
      (by decide) (by unfold Tree.maxPath; omega)
    obtain ⟨first, _, _, failed⟩ :=
      sourceText_blocked stands alike listed (by decide +kernel) long now
    exact ⟨_, failed⟩

end

/-- A plain file beside the tables can be ignored, but it keeps the text from being generated if the
path to it is too long. -/
theorem generate_blocked_winding :
    Adds ⟨tabled⟩ ⟨tabled ++ beside⟩ ⟨.above 0, ["R"]⟩ ["a plain file beside.txt"] ∧
    Ignorable ⟨tabled ++ beside⟩ timed (winding 815) ⟨.above 0, ["R"]⟩ "a plain file beside.txt" ∧
    "a plain file beside.txt" ∉ tableFiles timed ∧
    decodable ⟨tabled⟩ (winding 815) timed = [] ∧
    (∃ text, (outcome (loadAndGenerate (winding 815) timed)
      ⟨⟨tabled⟩, ⟨2018, 9, 1, 12, 0, 0, 0⟩, []⟩).1 = .ok text) ∧
    ∃ path, (outcome (loadAndGenerate (winding 815) timed)
      ⟨⟨tabled ++ beside⟩, ⟨2018, 9, 1, 12, 0, 0, 0⟩, []⟩).1 =
        .error (.inaccessible .nameTooLong path) := by
  have none : decodable ⟨tabled⟩ (winding 815) timed = [] := by
    rw [decodable, findBundles_tabled (Nat.le_refl _)]
    rfl
  exact ⟨adds_beside, .file rfl, by decide, none,
    generate_winding (Nat.le_refl _) (Nat.le_refl _) _⟩

end CodecTables.Generate
