import CodecTables.Proofs.Compile.Sharing
import CodecTables.Proofs.Compile.Text
import CodecTables.Proofs.Directory.Loading
import CodecTables.Proofs.Generate.Ignored
import CodecTables.Proofs.Generate.Unknown
import CodecTables.Proofs.Source.Printable

/-!
# How the text of a source is made

Three things are needed for a text: tables that can be loaded, a kext for every patch, and integers
that have a decimal. The first one that is missing is the one that is reported
(`made_sourceText`). Bundles that cannot be decoded and codec files that cannot be read are not
needed.
-/

namespace CodecTables.Generate

open Data (Moment)
open Directory (OfLoading Tables findBundles load)
open Files (Location Path Tree)
open Report (Failure)
open Resource (CodecBundle Controller VendorGroup)
open Source (Node decimalsOf)

/-- No path to a child of the directory that is not hidden is too long to be looked at. -/
def ShortChildren (files : Tree) (directory : Path) : Prop :=
  ∀ place, files.resolve directory = .ok (.directory place) →
    ∀ name ∈ files.namesIn place, name.startsWith "." = false →
      files.isDirectory (directory.child name) ≠ .error .nameTooLong

/-- The paths of the codec files of the bundles that can be decoded do not hold the character
U+0000. -/
def NulFreeFiles (files : Tree) (directory : Path) (settings : Settings) : Prop :=
  ∀ bundle ∈ decodable files directory settings,
    ∀ file ∈ bundle.info.files.layouts ++ bundle.info.files.platforms, '\x00' ∉ file.path.toList

/-- A patch of a bundle that can be decoded, or of a controller, is for a kext that the kext table
does not hold. -/
def Unresolved (files : Tree) (directory : Path) (settings : Settings) (tables : Tables) : Prop :=
  ∃ p ∈ (decodable files directory settings).flatMap (fun bundle => bundle.info.patches) ++
      tables.controllers.flatMap Controller.patches,
    tables.kexts.Lacks p.executable

/-- All integers that the source writes in decimal have a decimal. -/
def Expressible (files : Tree) (now : Moment) (directory : Path) (settings : Settings)
    (tables : Tables) : Prop :=
  ∀ lines, banner settings (settings.time now) = .ok lines →
    ∀ n ∈ decimalsOf (compiled ⟨directory, settings, tables⟩
        (VendorGroup.group (decodable files directory settings)) files lines).2.statements,
      Text.hasDecimal n = true

/-- What comes of making a text, and what it comes from. -/
inductive Made (files : Tree) (now : Moment) (directory : Path) (settings : Settings) :
    Except Failure String → Prop
  | unloaded {failure : Failure} (failed : Tables.load files directory settings = .error failure)
      (ofLoading : OfLoading failure) : Made files now directory settings (.error failure)
  | unresolved {tables : Tables} (executable : String)
      (loaded : Tables.load files directory settings = .ok tables)
      (unresolved : Unresolved files directory settings tables) :
      Made files now directory settings (.error (.fault (.unknownKext executable)))
  | inexpressible {tables : Tables} (reason : Source.Unprintable)
      (loaded : Tables.load files directory settings = .ok tables)
      (resolved : ¬ Unresolved files directory settings tables)
      (inexpressible : ¬ Expressible files now directory settings tables) :
      Made files now directory settings (.error (renderFailure reason))
  | text {tables : Tables} (text : String)
      (loaded : Tables.load files directory settings = .ok tables)
      (resolved : ¬ Unresolved files directory settings tables)
      (expressible : Expressible files now directory settings tables) :
      Made files now directory settings (.ok text)

section

variable {files : Tree} {now : Moment} {directory : Path} {settings : Settings} {tables : Tables}
  {place : Location}

/-! ### Bundles -/

/-- The bundles that are found are those that can be decoded, and each comes from an info file. -/
theorem findBundles_of_short (stands : files.resolve directory = .ok (.directory place))
    (short : ShortChildren files directory) :
    (findBundles files directory settings).1 = .ok (decodable files directory settings) ∧
      ∀ bundle ∈ decodable files directory settings,
        load Decode.codecInfo files (bundle.path.join (.ofString settings.bundleInfoFile)) =
          .ok bundle.info := by
  obtain ⟨bundles, log, found, account⟩ :=
    Directory.findBundles_account settings stands (short place stands)
  rw [decodable, found]
  exact ⟨rfl, fun bundle member => ((account.mem_iff bundle).mp member).2⟩

/-- The path of a bundle whose info file was read does not hold the character U+0000. -/
theorem notMem_path_of_read {path : Path} {name : String} {bytes : List UInt8}
    (read : files.read (path.child name) = .ok bytes) : '\x00' ∉ path.text.toList := by
  unfold Tree.read at read
  rcases resolved : files.resolve (path.child name) with problem | target
  · rw [resolved] at read
    cases read
  · have free := (Tree.free_of_resolve resolved).1
    rw [Path.lacks_iff (by decide) (by decide)] at free ⊢
    exact Path.lacks_of_child free

theorem nulFree_of_mem_group {name : String}
    (named : Path.ofString settings.bundleInfoFile = ⟨"", [name]⟩)
    (described : ∀ bundle ∈ decodable files directory settings,
      load Decode.codecInfo files (bundle.path.join (.ofString settings.bundleInfoFile)) =
        .ok bundle.info)
    (free : NulFreeFiles files directory settings) :
    ∀ group ∈ VendorGroup.group (decodable files directory settings), ∀ bundle ∈ group.bundles,
      bundle.NulFree := by
  intro group member bundle inside
  have found : bundle ∈ decodable files directory settings :=
    (VendorGroup.flatMap_group_perm _).mem_iff.mp (List.mem_flatMap.mpr ⟨group, member, inside⟩)
  have decoded := described bundle found
  rw [named] at decoded
  obtain ⟨bytes, read⟩ := Directory.read_of_load decoded
  exact ⟨notMem_path_of_read read, free bundle found⟩

/-! ### Patches -/

theorem mem_patches_group {bundles : List CodecBundle} {p : Resource.Patch} :
    p ∈ VendorGroup.patches (VendorGroup.group bundles) ↔
      p ∈ bundles.flatMap fun bundle => bundle.info.patches := by
  rw [VendorGroup.patches, ← List.flatMap_assoc]
  exact ((VendorGroup.flatMap_group_perm bundles).flatMap_right _).mem_iff

/-- Building stops at a patch of an unknown kext if there is one in the bundles or controllers. -/
theorem unresolved_iff :
    Unresolved files directory settings tables ↔
      (firstUnknown? tables (VendorGroup.group (decodable files directory settings))).isSome := by
  rw [firstUnknown?, List.find?_isSome, Unresolved]
  refine exists_congr fun p => and_congr ?_ ?_
  · rw [Resource.allPatches, List.mem_append, List.mem_append, mem_patches_group]
  · rw [← Resource.KextTable.knows_eq_false, Bool.not_eq_true']

/-! ### Texts -/

/-- A source that was compiled has a text if and only if its integers have decimals. -/
theorem exists_rendered_iff {list : List Compile.Visit} {lines : List String}
    {results : List (List Node)} {state : Compile.State}
    (run : Compile.Takes (Compile.visits Compile.buffer list) (opened settings lines) results
      state) :
    (∃ text, rendered settings state.statements = .ok text) ↔
      ∀ n ∈ decimalsOf state.statements, Text.hasDecimal n = true := by
  have plain : ∀ statement ∈ state.statements, statement.Plain := by
    obtain ⟨added, same, legible⟩ :=
      Compile.exists_legible (declaredNames_opened settings lines) run
    rw [same]
    intro statement member
    rcases List.mem_append.mp member with start | later
    · rcases List.mem_append.mp start with line | header
      · obtain ⟨text, _, rfl⟩ := List.mem_map.mp line
        simp [Node.Plain, Node.Printable, Node.decimals]
      · rw [List.mem_singleton.mp header]
        simp [Node.Plain, Node.Printable, Node.decimals]
    · exact (legible statement later).plain
  rw [← Source.allPrintable_iff_of_plain plain,
    ← Source.exists_render_iff_printable state.statements settings.indent, rendered]
  rcases (Node.sourceCode state.statements).render settings.indent with reason | text <;>
    simp [Except.mapError]

/-- What is in the first of two related lists is related to something in the second. -/
theorem exists_of_forall₂ {α β : Type} {related : α → β → Prop} {as : List α} {bs : List β}
    (each : List.Forall₂ related as bs) {a : α} (member : a ∈ as) : ∃ b ∈ bs, related a b := by
  induction each with
  | nil => exact absurd member List.not_mem_nil
  | @cons first b as bs here _ ih =>
    rcases List.mem_cons.mp member with rfl | later
    · exact ⟨b, List.mem_cons_self, here⟩
    · obtain ⟨other, inside, there⟩ := ih later
      exact ⟨other, List.mem_cons_of_mem _ inside, there⟩

/-- The numbers of controllers in the lookup table are among the integers that are written. -/
theorem mem_decimalsOf_of_lookup {groups : List VendorGroup} {lines : List String}
    {results : List (List Node)} {state : Compile.State}
    (run : Compile.Takes (Compile.visits Compile.buffer (visitsOf files tables groups))
      (opened settings lines) results state)
    {entry : Resource.LookupEntry} (member : entry ∈ tables.lookup) :
    entry.controllerCount ∈ decimalsOf state.statements := by
  have described : Compile.Describes
      (fun files => (state.reading (fun _ => True) files).loose) _ (visitsOf files tables groups)
      results :=
    Compile.describes_visits Compile.NameSupply.isPlain_kextTable (fun _ _ => trivial) run
  unfold visitsOf Generator.entities at described
  cases described with
  | cons means _ =>
    obtain ⟨_, rows, each, declared, _⟩ := means
    obtain ⟨row, inside, tree, _, rfl⟩ := exists_of_forall₂ each member
    rw [Source.decimalsOf_eq]
    refine List.mem_flatMap.mpr ⟨_, declared, ?_⟩
    have listed : entry.controllerCount ∈ decimalsOf rows := by
      rw [Source.decimalsOf_eq]
      refine List.mem_flatMap.mpr ⟨_, inside, ?_⟩
      simp [Node.decimals, decimalsOf]
    exact List.mem_append_right _ listed

/-- A number of controllers with too many digits has no place in a source. -/
theorem not_expressible_of_lookup {lines : List String}
    (lined : banner settings (settings.time now) = .ok lines)
    (free : ∀ group ∈ VendorGroup.group (decodable files directory settings),
      ∀ bundle ∈ group.bundles, bundle.NulFree)
    (resolved : ¬ Unresolved files directory settings tables)
    {entry : Resource.LookupEntry} (member : entry ∈ tables.lookup)
    (long : 10 ^ Text.maxDigits ≤ entry.controllerCount.natAbs) :
    ¬ Expressible files now directory settings tables := by
  intro expressible
  have goes := stopOf_visits settings lines files tables free
  rw [unresolved_iff, Option.not_isSome_iff_eq_none] at resolved
  rw [resolved] at goes
  obtain ⟨results, state, run⟩ := Compile.exists_takes_of_stopOf goes
  have short := expressible lines lined entry.controllerCount
  have same : compiled ⟨directory, settings, tables⟩
      (VendorGroup.group (decodable files directory settings)) files lines = (.ok results, state) :=
    run
  rw [same] at short
  have decimal := (Text.hasDecimal_iff _).mp (short (mem_decimalsOf_of_lookup run member))
  omega

/-- A text is made of tables that were loaded if every patch has a kext and every integer a
decimal. -/
theorem made_textOf {lines : List String} (lined : banner settings (settings.time now) = .ok lines)
    (loaded : Tables.load files directory settings = .ok tables)
    (free : ∀ group ∈ VendorGroup.group (decodable files directory settings),
      ∀ bundle ∈ group.bundles, bundle.NulFree) :
    Made files now directory settings
      (textOf files now ⟨directory, settings, tables⟩
        (VendorGroup.group (decodable files directory settings))) := by
  have stopped := stopOf_visits settings lines files tables free
  unfold Compile.stopOf at stopped
  unfold textOf
  dsimp only
  rw [lined]
  dsimp only
  rcases run : compiled ⟨directory, settings, tables⟩
    (VendorGroup.group (decodable files directory settings)) files lines with
    ⟨stop | results, state⟩
  · have failed := run
    unfold compiled at failed
    rw [failed] at stopped
    obtain ⟨p, first, rfl⟩ := Option.map_eq_some_iff.mp stopped.symm
    exact .unresolved p.executable loaded (unresolved_iff.mpr (Option.isSome_of_eq_some first))
  · have went := run
    unfold compiled at went
    rw [went] at stopped
    have resolved : ¬ Unresolved files directory settings tables := by
      rw [unresolved_iff, Option.map_eq_none_iff.mp stopped.symm]
      exact Bool.false_ne_true
    have expressible : Expressible files now directory settings tables ↔
        ∀ n ∈ decimalsOf state.statements, Text.hasDecimal n = true := by
      unfold Expressible
      rw [lined]
      constructor
      · intro all
        have here := all lines rfl
        rw [run] at here
        exact here
      · rintro all _ ⟨⟩
        rw [run]
        exact all
    -- The statements of the run are printed if and only if their integers have decimals.
    rw [← exists_rendered_iff went] at expressible
    dsimp only
    rcases shown : rendered settings state.statements with failure | text
    · have none : ¬ ∃ text, rendered settings state.statements = .ok text := by
        rintro ⟨text, same⟩
        rw [shown] at same
        cases same
      unfold rendered at shown
      rcases printed : (Node.sourceCode state.statements).render settings.indent with reason | text
      · rw [printed] at shown
        cases shown
        exact .inexpressible reason loaded resolved (mt expressible.mp none)
      · rw [printed] at shown
        cases shown
    · exact .text text loaded resolved (expressible.mpr ⟨text, shown⟩)

/-- What comes of making the text of a resource directory. -/
theorem made_sourceText {table info : String} {lines : List String}
    (lined : banner settings (settings.time now) = .ok lines)
    (tableNamed : Path.ofString settings.codecLookupFile = ⟨"", [table]⟩)
    (infoNamed : Path.ofString settings.bundleInfoFile = ⟨"", [info]⟩)
    (short : ShortChildren files directory) (free : NulFreeFiles files directory settings) :
    Made files now directory settings (sourceText files now directory settings) := by
  unfold sourceText
  rcases loaded : Tables.load files directory settings with failure | tables
  · exact .unloaded loaded (Directory.ofLoading_of_loadTables loaded)
  · obtain ⟨place, stands⟩ := Tree.resolve_of_isDirectory
      (Directory.isDirectory_of_loadTables ⟨table, tableNamed⟩ loaded)
    obtain ⟨found, described⟩ :
        (findBundles files directory settings).1 = .ok (decodable files directory settings) ∧ _ :=
      findBundles_of_short stands short
    dsimp only
    rw [foundText, found]
    exact made_textOf lined loaded (nulFree_of_mem_group infoNamed described free)

end

end CodecTables.Generate
