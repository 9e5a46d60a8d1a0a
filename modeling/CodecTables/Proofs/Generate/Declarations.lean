import CodecTables.Proofs.Compile.Order
import CodecTables.Proofs.Generate.Counts

/-!
# Declarations of generated sources

A source that is built can be compiled from its beginning to its end: what a declaration uses is
declared before it, with the type that is called for, and nothing is declared twice.
-/

namespace CodecTables.Generate

open Compile
open Resource (VendorGroup)
open Source (Declares Foreign Node)

/-- The names of a stem that are given out first. -/
def firstNames (stem : String) (count : Nat) : List String :=
  (List.range count).map (NameSupply.name stem)

/-! ### Order -/

/-- A source begins with its opening, after which each statement may stand where it does. -/
theorem inTurn_of_build {generator : Generator} {groups? : Option (List VendorGroup)}
    {w w' : Workspace} {source : List Node}
    (built : outcome (generator.build groups?) w = (.ok source, w')) :
    ∃ lines added, source = Generator.opening generator.settings lines ++ added ∧
      Source.InTurn (Generator.opening generator.settings lines) added := by
  obtain ⟨files, groups, lines, results, state, run, rfl⟩ := exists_takes_of_build built
  obtain ⟨_, added, same, inTurn⟩ :=
    (Grounded.start _ _ _).visits NameSupply.isPlain_kextTable run
  exact ⟨lines, added, same, inTurn⟩

/-- Each assignment of a source may stand after all that comes before it. -/
theorem admits_of_build {generator : Generator} {groups? : Option (List VendorGroup)}
    {w w' : Workspace} {source earlier later : List Node} {declarator value : Node}
    (built : outcome (generator.build groups?) w = (.ok source, w'))
    (split : source = earlier ++ .assign declarator value :: later) :
    Source.Admits earlier (.assign declarator value) := by
  obtain ⟨lines, added, rfl, inTurn⟩ := inTurn_of_build built
  rcases inTurn.mem_or_admits split with opening | admits
  · exact nomatch value_opening opening
  · exact admits

/-- In a source that is built, each name in the value of a declaration is declared before it, unless
it stands for what no source declares. The value has the form of its type, in which each field calls
for a type of array; the names in it are declared before with the types that are called for. -/
theorem build_declares_before {generator : Generator} {groups? : Option (List VendorGroup)}
    {w w' : Workspace} {source earlier later : List Node} {declarator value : Node}
    (built : outcome (generator.build groups?) w = (.ok source, w'))
    (split : source = earlier ++ .assign declarator value :: later) :
    (∀ name ∈ value.identifiers,
      Foreign name ∨ ∃ declaration ∈ earlier, declaration.declares? = some name) ∧
    ∃ type name isStatic isConstant form,
      declarator = .declarator type (.identifier name) isStatic isConstant ∧
        Source.valueForm? type = some form ∧ form.Fits (Declares earlier) value := by
  have admits := admits_of_build built split
  exact ⟨fun name member => admits.declared_of_mem member, admits.of_assign⟩

/-- The source of one bundle has a declaration with all its names before it. -/
theorem build_declares_before_oneBundle : ∃ source w' earlier later declarator value,
    outcome (oneKext.build (some oneBundle)) oneFile = (.ok source, w') ∧
    source = earlier ++ .assign declarator value :: later ∧
    ∀ name ∈ value.identifiers,
      Foreign name ∨ ∃ declaration ∈ earlier, declaration.declares? = some name := by
  have assigns : ((outcome (oneKext.build (some oneBundle)) oneFile).1.toOption.getD []).any
      (fun statement => statement.value?.isSome) = true := by decide +kernel
  rcases built : outcome (oneKext.build (some oneBundle)) oneFile with ⟨failure | source, w'⟩
  · rw [built] at assigns
    cases assigns
  · rw [built] at assigns
    obtain ⟨statement, member, valued⟩ := List.any_eq_true.mp assigns
    obtain ⟨earlier, later, split⟩ := List.append_of_mem member
    cases statement with
    | assign declarator value =>
      exact ⟨source, w', earlier, later, declarator, value, rfl, split,
        (build_declares_before built split).1⟩
    | _ => cases valued

/-! ### Names -/

/-- The names of a stem differ. -/
theorem nodup_firstNames {stem : String} (plain : NameSupply.isPlain stem = true) (count : Nat) :
    (firstNames stem count).Nodup :=
  List.nodup_range.map fun _ _ same => ((NameSupply.name_inj plain plain).mp same).2

/-- The first names of a stem are those with an index below the count. -/
theorem mem_firstNames {stem name : String} {count : Nat} :
    name ∈ firstNames stem count ↔ ∃ index < count, name = NameSupply.name stem index := by
  simp [firstNames, eq_comm]

/-- The names of several stems differ from one another. -/
theorem nodup_flatMap_firstNames (counts : String → Nat) :
    (NameSupply.stems.flatMap fun stem => firstNames stem (counts stem)).Nodup := by
  have distinct : NameSupply.stems.Nodup := by decide
  refine List.nodup_flatMap.mpr ⟨fun stem known =>
    nodup_firstNames (NameSupply.isPlain_of_mem_stems known) _, ?_⟩
  refine distinct.imp_of_mem fun {stem stem'} known known' differ => ?_
  intro name member member'
  obtain ⟨index, _, same⟩ := mem_firstNames.mp member
  obtain ⟨index', _, same'⟩ := mem_firstNames.mp member'
  have plain := NameSupply.isPlain_of_mem_stems known
  have plain' := NameSupply.isPlain_of_mem_stems known'
  exact differ ((NameSupply.name_inj plain plain').mp (same.symm.trans same')).1

theorem nodup_tableNames : tableNames.Nodup := by decide

theorem isPlain_of_mem_tableNames {name : String} (member : name ∈ tableNames) :
    NameSupply.isPlain name = true := by
  revert name
  decide

/-- The names of tables are not given out for any stem. -/
theorem nodup_names (counts : String → Nat) :
    (tableNames ++ NameSupply.stems.flatMap fun stem => firstNames stem (counts stem)).Nodup := by
  refine List.nodup_append.mpr ⟨nodup_tableNames, nodup_flatMap_firstNames counts, ?_⟩
  intro name table name' given same
  obtain ⟨stem, _, member⟩ := List.mem_flatMap.mp given
  obtain ⟨index, _, rfl⟩ := mem_firstNames.mp member
  exact NameSupply.ne_name_of_isPlain (isPlain_of_mem_tableNames table) stem index same

/-- A run from the opening declares the tables and all names that were given out. -/
theorem mem_declaredNames {s : State} (named : Named s) (spent : Spent s)
    (plain : plainNames s.statements = tableNames) {name : String} :
    name ∈ Source.declaredNames s.statements ↔ name ∈ tableNames ∨
      ∃ stem ∈ NameSupply.stems, name ∈ firstNames stem (s.names.index stem) := by
  constructor
  · intro declared
    by_cases given : NameSupply.isPlain name = true
    · left
      rw [← plain]
      exact List.mem_filter.mpr ⟨declared, given⟩
    · right
      obtain ⟨stem, known, index, below, same⟩ :=
        named.earlier name (List.mem_filter.mpr ⟨declared, by simpa using given⟩)
      exact ⟨stem, known, mem_firstNames.mpr ⟨index, below, same⟩⟩
  · rintro (table | ⟨stem, known, member⟩)
    · rw [← plain] at table
      exact (List.mem_filter.mp table).1
    · obtain ⟨index, below, rfl⟩ := mem_firstNames.mp member
      exact spent stem known index below

/-- A source that is built declares no name twice, and each assignment in it declares a name: that
of a table or of the number of its rows, or one of those that were given out, which are the first
names of each stem. All these differ. -/
theorem build_declares_apart {generator : Generator} {groups? : Option (List VendorGroup)}
    {w w' : Workspace} {source : List Node}
    (built : outcome (generator.build groups?) w = (.ok source, w')) :
    (Source.declaredNames source).Nodup ∧
    (∀ declarator value, .assign declarator value ∈ source →
      ∃ name, (Node.assign declarator value).declares? = some name) ∧
    ∃ counts : String → Nat,
      (tableNames ++ NameSupply.stems.flatMap fun stem => firstNames stem (counts stem)).Nodup ∧
      (Source.declaredNames source).Perm
        (tableNames ++ NameSupply.stems.flatMap fun stem => firstNames stem (counts stem)) := by
  have assigns : ∀ declarator value, .assign declarator value ∈ source →
      ∃ name, (Node.assign declarator value).declares? = some name := by
    intro declarator value member
    obtain ⟨earlier, later, split⟩ := List.append_of_mem member
    obtain ⟨_, name, _, _, _, rfl, _⟩ := (admits_of_build built split).of_assign
    exact ⟨name, rfl⟩
  obtain ⟨files, groups, lines, results, state, run, rfl⟩ := exists_takes_of_build built
  have courses : Courses (fun _ => True) (opened generator.settings lines) _ tableTypes state :=
    courses_visits NameSupply.isPlain_kextTable (fun _ _ => trivial) run
  have named : Named state := named_of_courses courses
  have spent : Spent state := (Spent.start _ _).courses courses
  have plain : plainNames state.statements = tableNames := plainNames_of_courses courses
  have distinct : (Source.declaredNames state.statements).Nodup :=
    List.nodup_iff_count_le_one.mpr (count_of_courses courses)
  refine ⟨distinct, assigns, state.names.index, nodup_names _, ?_⟩
  -- Neither side has a name twice, so it is enough that they have the same names.
  refine (List.perm_ext_iff_of_nodup distinct (nodup_names _)).mpr fun name => ?_
  rw [mem_declaredNames named spent plain, List.mem_append, List.mem_flatMap]

theorem build_declares_apart_oneBundle : ∃ source w',
    outcome (oneKext.build (some oneBundle)) oneFile = (.ok source, w') ∧
    (Source.declaredNames source).Nodup := by
  obtain ⟨source, w', built⟩ := exists_build_oneBundle
  exact ⟨source, w', built, (build_declares_apart built).1⟩

end CodecTables.Generate
