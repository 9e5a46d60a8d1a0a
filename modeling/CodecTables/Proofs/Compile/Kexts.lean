import CodecTables.Proofs.Compile.Places
import CodecTables.Proofs.Compile.Visits

/-!
# Kexts of patches

Patches refer to the kexts of the table that was compiled last. The places that are known are those
to which this table resolves texts, whatever was compiled before and in between (`Registered`).
-/

namespace CodecTables

open Files (Path Tree)
open Plist (Scalar)
open Resource
open Source (Node)

/-- The kext table that an entity is. -/
def Resource.Entity.kextTable? : Entity → Option KextTable
  | kextTable table => some table
  | _ => none

namespace Compile

/-- How rows are read after a kext table. -/
def kextReading (source : List Node) (latest : Option KextTable) (files : Tree) : Reading where
  source := source
  refers _ node := ∃ name, node = .identifier name
  place executable place := ∃ table, latest = some table ∧ table.Resolves executable place
  kextTable := defaultKextTable
  files := files

/-- The kexts are those of the last kext table, whose rows are the last that were declared. -/
structure Registered (latest : Option KextTable) (s : State) : Prop where
  kexts : s.kexts = (latest.map fun table => notePlaces [] 0 table.entries).getD []
  kextTable : s.kextTable = defaultKextTable
  declared : ∀ table, latest = some table → ∃ rows,
    (Source.declarations s.statements defaultKextTable).getLast? =
      some (.declare (Source.structArray "KernelPatcher::KextInfo") defaultKextTable
        (.literal rows)) ∧
    ∀ files, List.Forall₂ (fun entry row =>
      (kextReading s.statements latest files).KextRow entry.2 row) table.entries rows

theorem Registered.start (statements : List Node) (types : TypeTables) (names : NameSupply) :
    Registered none (.start statements types names) :=
  ⟨rfl, rfl, nofun⟩

section Step

variable {latest : Option KextTable} {s t : State}

theorem Registered.find?_eq_some (registered : Registered latest s) {text : String} {place : Nat} :
    Plist.Dictionary.find? s.kexts text = some place ↔
      ∃ table, latest = some table ∧ table.Resolves text place := by
  rw [registered.kexts]
  cases latest with
  | none =>
    constructor
    · exact nofun
    · rintro ⟨_, ⟨⟩, _⟩
  | some table =>
    rw [Option.map_some, Option.getD_some, find?_notePlaces_eq_some]
    constructor
    · exact fun resolves => ⟨table, rfl, resolves⟩
    · rintro ⟨_, ⟨⟩, resolves⟩
      exact resolves

theorem Registered.within (registered : Registered latest s) (files : Tree) :
    (s.reading (fun _ => True) files).Within (kextReading s.statements latest files) where
  source := id
  refers := fun ⟨_, name, _, same⟩ => ⟨name, same⟩
  place := registered.find?_eq_some.mp
  kextTable := registered.kextTable.symm
  files := rfl

/-- A table of another name declares nothing under a name that is not given. -/
theorem declarations_of_course {among : List UInt8 → Prop} {files : Tree} {s t : State}
    {used : List (List UInt8)} {tables : List (String × String)}
    (course : Course among files s used tables t) {name : String}
    (plain : NameSupply.isPlain name = true)
    (other : name ∉ tables.flatMap fun table => [table.2, sizeName table.2]) :
    Source.declarations t.statements name = Source.declarations s.statements name := by
  obtain ⟨added, same⟩ := course.grows.statements
  have counts : (Source.declaredNames t.statements).count name =
      (Source.declaredNames s.statements).count name := by
    have names := congrArg (List.count name) course.plainNames
    rw [List.count_append, List.count_eq_zero_of_not_mem other, Nat.add_zero] at names
    rwa [Compile.plainNames, Compile.plainNames, List.count_filter plain,
      List.count_filter plain] at names
  have split : Source.declarations t.statements name =
      Source.declarations s.statements name ++ Source.declarations added name := by
    rw [← same, Source.declarations_append]
  rw [← Source.length_declarations, ← Source.length_declarations, split, List.length_append]
    at counts
  rw [split, List.length_eq_zero_iff.mp (by omega : (Source.declarations added name).length = 0),
    List.append_nil]

/-- Entities that are no kext table leave the kexts as they were. -/
theorem Registered.other {files : Tree} {e : Entity} {nodes : List Node}
    (registered : Registered latest s) (other : e.kextTable? = none)
    (run : Takes (entity files e) s nodes t) : Registered latest t := by
  have name := registered.kextTable
  have plain : NameSupply.isPlain s.kextTable = true := by
    rw [name]
    exact NameSupply.isPlain_kextTable
  obtain ⟨course, _⟩ : Course (fun _ => True) files _ _ _ t ∧ _ :=
    course_entity plain (fun _ _ => trivial) run
  have places : placesAfter s.kexts e = s.kexts := by
    cases e with
    | kextTable table => exact nomatch other
    | _ => rfl
  have apart : defaultKextTable ∉
      (tablesOf s.kextTable e).flatMap fun table => [table.2, sizeName table.2] := by
    cases e with
    | kextTable table => exact nomatch other
    | lookupTable | vendorGroups | controllerTable => exact of_decide_eq_false rfl
    | _ => exact List.not_mem_nil
  constructor
  · rw [course.kexts, ← registered.kexts]
    exact places
  · rw [course.grows.kextTable]
    exact name
  · intro table same
    obtain ⟨rows, last, reads⟩ := registered.declared table same
    refine ⟨rows, ?_, fun files => (reads files).imp fun entry row read => ?_⟩
    · rw [declarations_of_course course NameSupply.isPlain_kextTable apart]
      exact last
    · exact read.of_source course.grows.statements.subset

/-- A kext table takes the place of what was known before. -/
theorem Registered.table {table : KextTable} {u : Unit} (registered : Registered latest s)
    (run : Takes (Compile.kextTable table) s u t) : Registered (some table) t := by
  obtain ⟨v, rows, course, reads, declared⟩ :
      ∃ v rows, Course (fun _ => True) .empty _ [] [] v ∧ _ ∧ _ := rows_kextTable run
  have same := takes_declareTable.mp declared
  have name := registered.kextTable
  have statements : t.statements = v.statements ++
      [.declare (Source.structArray "KernelPatcher::KextInfo") defaultKextTable (.literal rows),
        .declareConst .sizeType (sizeName defaultKextTable) (.integer rows.length)] := by
    rw [same, name]
    exact List.append_assoc _ [_] [_]
  constructor
  · rw [same]
    exact course.kexts
  · rw [same]
    exact course.grows.kextTable.trans name
  · rintro _ ⟨⟩
    refine ⟨rows, ?_, fun files => reads.imp fun entry row read => ?_⟩
    · -- The declaration of the size comes later, but under another name.
      have sized : sizeName defaultKextTable ≠ defaultKextTable := by decide
      have last : Source.declarations
          [.declare (Source.structArray "KernelPatcher::KextInfo") defaultKextTable (.literal rows),
            .declareConst .sizeType (sizeName defaultKextTable) (.integer rows.length)]
          defaultKextTable =
            [.declare (Source.structArray "KernelPatcher::KextInfo") defaultKextTable
              (.literal rows)] := by
        simp [Source.declarations, Node.declares?, Node.declare, Node.declareConst, Node.named,
          Node.makeConstant, sized]
      rw [statements, Source.declarations_append, last, List.getLast?_append,
        List.getLast?_singleton, Option.some_or]
    · refine read.of_source fun statement member => ?_
      rw [statements]
      exact List.mem_append_left _ member

end Step

/-- After the run of an entity, the kexts are those of the last kext table. -/
theorem Registered.step {latest : Option KextTable} {files : Tree} {e : Entity} {nodes : List Node}
    {s t : State} (registered : Registered latest s) (run : Takes (entity files e) s nodes t) :
    Registered (e.kextTable?.or latest) t := by
  cases known : e.kextTable? with
  | none => exact registered.other known run
  | some table =>
    cases e with
    | kextTable own =>
      obtain ⟨declared, _⟩ := takes_nothing.mp run
      rw [← Option.some.inj known]
      exact registered.table declared
    | _ => exact nomatch known

end Compile

end CodecTables
