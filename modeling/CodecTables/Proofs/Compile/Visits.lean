import CodecTables.Proofs.Compile.Invariant

/-!
# Runs of several entities

Entities are compiled one after the other, each with the files that there are at the time. What one
leaves is where the next begins: the directory of its last bundle, the kexts of its table, and all
that is in the source (`courses_visits`).
-/

namespace CodecTables.Compile

open Data.Sha256 (hexDigest)
open Files (Path Tree)
open Resource
open Source (Node)

variable {α β : Type}

/-- An entity and the files that there are when it is compiled. -/
structure Visit where
  files : Tree
  entity : Entity

/-- Compiles entities one after the other, with a way to store bytes. -/
def visits (store : Storage) (list : List Visit) : Step (List (List Node)) :=
  list.mapM fun visit => entityWith store visit.files visit.entity

/-- The byte strings of entities that are compiled one after the other. -/
def bytesOfVisits (directory : Path) : List Visit → List (List UInt8)
  | [] => []
  | visit :: rest =>
    visit.entity.bytes visit.files directory ++
      bytesOfVisits (visit.entity.directory directory) rest

/-- The struct types and names of the tables that entities declare. -/
def tablesOfVisits (kextTable : String) (list : List Visit) : List (String × String) :=
  list.flatMap fun visit => tablesOf kextTable visit.entity

/-! ### The directory -/

section Directory

variable {store : Storage} {files : Tree}
  (stores : ∀ data stem, Keeps (fun s t => t.directory = s.directory) (store data stem))

include stores

/-- A bundle leaves its own directory. -/
theorem directory_codecBundle {bundle : CodecBundle} {row : Node} {s t : State}
    (run : Takes (codecBundle store files bundle) s row t) : t.directory = bundle.path := by
  have kept := (frame_directory.codecInfo stores files bundle.info).of_takes
    (takes_codecBundle.mp run)
  exact kept

/-- Bundles leave the directory of the last of them. -/
theorem directory_codecBundles {bundles : List CodecBundle} {rows : List Node} {s t : State}
    (steps : TakesEach (codecBundle store files) s bundles rows t) :
    t.directory = bundles.foldl (fun _ bundle => bundle.path) s.directory := by
  induction steps with
  | nil s => rfl
  | cons first _ ih => rw [ih, directory_codecBundle stores first, List.foldl_cons]

/-- The bundles of a vendor leave the directory of the last of them. -/
theorem directory_vendorGroup {group : VendorGroup} {row : Node} {s t : State}
    (run : Takes (vendorGroup store files group) s row t) :
    t.directory = group.bundles.foldl (fun _ bundle => bundle.path) s.directory := by
  obtain ⟨rows, u, steps, rfl, rfl⟩ := takes_vendorGroup.mp run
  have last := directory_codecBundles stores (takes_mapM.mp steps)
  exact last

/-- Groups leave the directory of their last bundle. -/
theorem directory_vendorGroups {groups : List VendorGroup} {rows : List Node} {s t : State}
    (steps : TakesEach (vendorGroup store files) s groups rows t) :
    t.directory =
      (groups.flatMap VendorGroup.bundles).foldl (fun _ bundle => bundle.path) s.directory := by
  induction steps with
  | nil s => rfl
  | cons first _ ih =>
    rw [ih, directory_vendorGroup stores first, List.flatMap_cons, List.foldl_append]

/-- The directory after an entity is that of its last bundle. -/
theorem directory_entityWith {e : Entity} {nodes : List Node} {s t : State}
    (run : Takes (entityWith store files e) s nodes t) : t.directory = e.directory s.directory := by
  have without (none : e.bundles = []) : t.directory = e.directory s.directory := by
    have kept := (frame_directory.entityWith stores files e (by simp [none])
      (fun _ _ _ _ => rfl)).of_takes run
    rw [kept, Entity.directory, none, List.foldl_nil]
  cases e with
  | vendorGroups groups =>
    obtain ⟨declared, _⟩ := takes_nothing.mp run
    obtain ⟨rows, u, steps, rest⟩ := takes_vendorTable.mp declared
    have kept : t.directory = (u.headed "Vendor Section").directory :=
      (frame_directory.declareTable _ _ _).of_takes rest
    rw [kept]
    have last := directory_vendorGroups stores (takes_mapM.mp steps)
    exact last
  | vendorGroup group =>
    obtain ⟨row, declared, _⟩ := takes_singleton.mp run
    exact directory_vendorGroup stores declared
  | codecBundle bundle =>
    obtain ⟨row, declared, _⟩ := takes_singleton.mp run
    exact directory_codecBundle stores declared
  | _ => exact without rfl

end Directory

/-! ### Courses -/

/-- Runs on top of each other, each with kexts of its own. -/
inductive Courses (among : List UInt8 → Prop) :
    State → List (List UInt8) → List (String × String) → State → Prop
  | nil (s : State) : Courses among s [] [] s
  | cons {files : Tree} {s t u : State} {kexts : List (Plist.Scalar × Nat)}
      {used used' : List (List UInt8)} {tables tables' : List (String × String)} :
      Course among files (s.register kexts) used tables t →
      Courses among t used' tables' u → Courses among s (used ++ used') (tables ++ tables') u

variable {among : List UInt8 → Prop} {s t : State} {used : List (List UInt8)}
  {tables : List (String × String)}

theorem Courses.grows (courses : Courses among s used tables t) : Extends s t := by
  induction courses with
  | nil s => exact .refl s
  | @cons _ s _ _ kexts _ _ _ _ course _ ih =>
    have registered : Extends s (s.register kexts) := { Extends.refl s with }
    exact (registered.trans course.grows).trans ih

/-- The tables of several runs are declared, each with the number of its rows. -/
theorem Courses.declared (courses : Courses among s used tables t) :
    ∀ table ∈ tables, ∃ rows,
      .declare (Source.structArray table.1) table.2 (.literal rows) ∈ t.statements ∧
      .declareConst .sizeType (sizeName table.2) (.integer rows.length) ∈ t.statements := by
  induction courses with
  | nil s => exact nofun
  | cons course rest ih =>
    intro table member
    rcases List.mem_append.mp member with early | late
    · obtain ⟨rows, declared, sized⟩ := course.declared table early
      exact ⟨rows, rest.grows.mem declared, rest.grows.mem sized⟩
    · exact ih table late

theorem Typed.courses (courses : Courses among s used tables t) (typed : Typed among s) :
    Typed among t := by
  induction courses with
  | nil s => exact typed
  | @cons _ s _ _ kexts _ _ _ _ course _ ih =>
    have registered : Extends s (s.register kexts) := { Extends.refl s with }
    have begun : Typed among (s.register kexts) :=
      typed.grow registered (List.append_nil _).symm nofun
    exact ih (begun.course course)

theorem Named.courses (courses : Courses among s used tables t) (named : Named s) : Named t := by
  induction courses with
  | nil s => exact named
  | cons course _ ih => exact ih (Named.course course (named.of_eq rfl rfl))

/-- Runs declare each name that they give out. -/
theorem Spent.courses (courses : Courses among s used tables t) (spent : Spent s) : Spent t := by
  induction courses with
  | nil s => exact spent
  | cons course _ ih => exact ih (Spent.course course spent)

theorem NamedApart.courses (courses : Courses among s used tables t) (apart : NamedApart s) :
    NamedApart t := by
  induction courses with
  | nil s => exact apart
  | cons course _ ih => exact ih (NamedApart.course course apart)

/-- The plain names that runs declare are those of their tables. -/
theorem Courses.plainNames (courses : Courses among s used tables t) :
    plainNames t.statements =
      plainNames s.statements ++ tables.flatMap fun table => [table.2, sizeName table.2] := by
  induction courses with
  | nil s => exact (List.append_nil _).symm
  | cons course _ ih =>
    rw [ih, course.plainNames, List.flatMap_append, List.append_assoc]
    rfl

/-- Several runs add arrays for the bytes that they store, as one run does. -/
theorem Holds.courses (courses : Courses among s used tables t)
    {held : List (List UInt8 × String)} (holds : Holds s held) :
    ∃ new, Holds t (held ++ new) ∧ Covers held new used := by
  induction courses generalizing held with
  | nil s => exact holds.idle rfl rfl
  | @cons files s t u kexts _ _ _ _ course _ ih =>
    have begun : Holds (s.register kexts) held := holds.of_eq rfl rfl
    obtain ⟨new, holds, covers⟩ := begun.course course
    obtain ⟨new', holds, covers'⟩ := ih holds
    refine ⟨new ++ new', ?_, covers.trans covers'⟩
    rw [← List.append_assoc]
    exact holds

/-- The courses of the runs of entities. -/
theorem courses_visits {list : List Visit} {results : List (List Node)}
    (plain : NameSupply.isPlain s.kextTable = true)
    (members : ∀ data ∈ bytesOfVisits s.directory list, among data)
    (run : Takes (visits buffer list) s results t) :
    Courses among s (bytesOfVisits s.directory list) (tablesOfVisits s.kextTable list) t := by
  have steps := takes_mapM.mp run
  clear run
  induction steps with
  | nil s => exact .nil s
  | @cons s u t visit nodes rest results first _ ih =>
    obtain ⟨course, _⟩ : Course among visit.files _ _ _ u ∧ _ := course_entity plain
      (fun data member => members data (List.mem_append_left _ member)) first
    have same : u.kextTable = s.kextTable := course.grows.kextTable
    have here := directory_entityWith directory_buffer first
    rw [same, here] at ih
    exact .cons course (ih plain fun data member =>
      members data (List.mem_append_right _ member))

end CodecTables.Compile
