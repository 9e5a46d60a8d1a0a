import CodecTables.Proofs.Compile.Course
import Mathlib.Data.List.Dedup

/-!
# Names and arrays of a source

Invariants of compiling. Given names that are declared were given out before and are declared once
(`Named`), so that a reference leads to one declaration, and all that were given out are declared
(`Spent`). The names of arrays of bytes and of other arrays have other stems (`NamedApart`). The
arrays of bytes in the source are those that are known, in the same order, and each holds the bytes
that it is known for (`Holds`). The rows of all struct types say what some entity is (`Typed`).
-/

namespace CodecTables.Compile

open Data.Sha256 (hexDigest)
open Files (Tree)
open Source (Node)

variable {among : List UInt8 → Prop} {files : Tree}

/-! ### Names -/

/-- The given names that a source declares. -/
def givenNames (source : List Node) : List String :=
  (Source.declaredNames source).filter fun name => !NameSupply.isPlain name

/-- The names that a source declares and that are not given. -/
def plainNames (source : List Node) : List String :=
  (Source.declaredNames source).filter NameSupply.isPlain

/-- Declared names that are given were given out before, and are declared once. -/
structure Named (s : State) : Prop where
  earlier : ∀ name ∈ givenNames s.statements, ∃ stem ∈ NameSupply.stems,
    ∃ index < s.names.index stem, name = NameSupply.name stem index
  once : (givenNames s.statements).Nodup

/-- Nothing is declared by a source of comments and inclusions. -/
theorem Named.start {statements : List Node} (none : Source.declaredNames statements = [])
    (types : TypeTables) (names : NameSupply) : Named (.start statements types names) := by
  have empty : givenNames (State.start statements types names).statements = [] := by
    simp [givenNames, State.start, none]
  constructor
  · rw [empty]
    exact fun name member => absurd member List.not_mem_nil
  · rw [empty]
    exact List.nodup_nil

theorem givenNames_append (source source' : List Node) :
    givenNames (source ++ source') = givenNames source ++ givenNames source' := by
  rw [givenNames, Source.declaredNames, List.filterMap_append, List.filter_append]
  rfl

theorem plainNames_append (source source' : List Node) :
    plainNames (source ++ source') = plainNames source ++ plainNames source' := by
  rw [plainNames, Source.declaredNames, List.filterMap_append, List.filter_append]
  rfl

/-- A declaration under a given name has this name. -/
theorem givenNames_of_given {statement : Node} {name : String}
    (declared : statement.declares? = some name) (given : NameSupply.isPlain name = false) :
    givenNames [statement] = [name] := by
  simp [givenNames, Source.declaredNames, declared, given]

/-- A declaration under a given name has no plain name. -/
theorem plainNames_of_given {statement : Node} {name : String}
    (declared : statement.declares? = some name) (given : NameSupply.isPlain name = false) :
    plainNames [statement] = [] := by
  simp [plainNames, Source.declaredNames, declared, given]

/-- A declaration under a plain name has no given name. -/
theorem givenNames_of_plain {statement : Node}
    (plain : ∀ name, statement.declares? = some name → NameSupply.isPlain name = true) :
    givenNames [statement] = [] := by
  cases declared : statement.declares? with
  | none => simp [givenNames, Source.declaredNames, declared]
  | some name => simp [givenNames, Source.declaredNames, declared, plain name declared]

/-- The next name of a stem is not declared yet. -/
theorem Named.nextName_notMem {s : State} (named : Named s) {stem : String}
    (known : stem ∈ NameSupply.stems) : s.nextName stem ∉ givenNames s.statements := by
  intro member
  obtain ⟨stem', known', index, below, same⟩ := named.earlier _ member
  have plain := NameSupply.isPlain_of_mem_stems known
  have plain' := NameSupply.isPlain_of_mem_stems known'
  obtain ⟨rfl, rfl⟩ := (NameSupply.name_inj plain plain').mp same
  exact Nat.lt_irrefl _ below

/-- A declaration under the next name of a stem. -/
theorem Named.declare {s : State} (named : Named s) {stem : String}
    (known : stem ∈ NameSupply.stems) {statement : Node}
    (declared : statement.declares? = some (s.nextName stem)) :
    Named ((s.mint stem).add statement) := by
  have given : NameSupply.isPlain (s.nextName stem) = false := NameSupply.not_isPlain_name _ _
  have names : givenNames ((s.mint stem).add statement).statements =
      givenNames s.statements ++ [s.nextName stem] := by
    rw [show ((s.mint stem).add statement).statements = s.statements ++ [statement] from rfl,
      givenNames_append, givenNames_of_given declared given]
  constructor
  · intro name member
    rw [names] at member
    rcases List.mem_append.mp member with old | new
    · obtain ⟨stem', known', index, below, same⟩ := named.earlier name old
      have still : s.names.index stem' ≤ (s.names.advance stem).index stem' := by
        rw [NameSupply.index_advance]
        exact Nat.le_add_right _ _
      exact ⟨stem', known', index, Nat.lt_of_lt_of_le below still, same⟩
    · refine ⟨stem, known, s.names.index stem, ?_, List.mem_singleton.mp new⟩
      change s.names.index stem < (s.names.advance stem).index stem
      rw [NameSupply.index_advance, if_pos rfl]
      exact Nat.lt_succ_self _
  · rw [names]
    refine List.nodup_append.mpr ⟨named.once, List.nodup_singleton _, ?_⟩
    intro name old name' new
    rw [List.mem_singleton.mp new]
    rintro rfl
    exact named.nextName_notMem known old

/-- A statement that declares no given name. -/
theorem Named.add {s : State} (named : Named s) {statement : Node}
    (plain : ∀ name, statement.declares? = some name → NameSupply.isPlain name = true) :
    Named (s.add statement) := by
  have names : givenNames (s.add statement).statements = givenNames s.statements := by
    rw [show (s.add statement).statements = s.statements ++ [statement] from rfl,
      givenNames_append, givenNames_of_plain plain, List.append_nil]
  constructor
  · rw [names]
    exact named.earlier
  · rw [names]
    exact named.once

theorem Named.of_eq {s t : State} (named : Named s) (statements : t.statements = s.statements)
    (names : t.names = s.names) : Named t := by
  constructor
  · rw [statements, names]
    exact named.earlier
  · rw [statements]
    exact named.once

/-- A run keeps a state named. -/
theorem Named.course {s t : State} {used : List (List UInt8)} {tables : List (String × String)}
    (course : Course among files s used tables t) (named : Named s) : Named t := by
  induction course with
  | still statements names => exact named.of_eq statements names
  | trans _ _ first second => exact second (first named)
  | heading s => exact named.add nofun
  | store known _ run =>
    rcases takes_buffer.mp run with ⟨_, rfl⟩ | ⟨_, _, rfl⟩
    · exact named
    · exact (named.declare (mem_stems_of_mem_byteStems known) rfl).of_eq rfl rfl
  | array _ known _ _ => exact named.declare (mem_stems_of_mem_otherStems known) rfl
  | table plain =>
    refine (named.add ?_).add ?_
    · rintro _ ⟨⟩
      exact plain
    · rintro _ ⟨⟩
      exact NameSupply.isPlain_sizeName _

/-- A given name has one declaration. -/
theorem Named.declarations {s : State} (named : Named s) {statement : Node} {name : String}
    (member : statement ∈ s.statements) (declared : statement.declares? = some name)
    (given : NameSupply.isPlain name = false) :
    Source.declarations s.statements name = [statement] := by
  apply Source.declarations_eq_singleton member declared
  have once := List.nodup_iff_count_le_one.mp named.once name
  rwa [givenNames, List.count_filter (by simp [given])] at once

/-- All names that were given out are declared. -/
def Spent (s : State) : Prop :=
  ∀ stem ∈ NameSupply.stems, ∀ index < s.names.index stem,
    NameSupply.name stem index ∈ Source.declaredNames s.statements

/-- At the start no name was given out. -/
theorem Spent.start (statements : List Node) (types : TypeTables) :
    Spent (.start statements types .empty) :=
  fun _ _ index below => absurd below (Nat.not_lt_zero index)

/-- What extends a state in which all names are spent does so too, unless it takes names. -/
theorem Spent.of_extends {s t : State} (spent : Spent s) (grown : Extends s t)
    (names : t.names = s.names) : Spent t := by
  intro stem known index below
  rw [names] at below
  exact (grown.statements.filterMap _).mem (spent stem known index below)

/-- A declaration under the next name of a stem. -/
theorem Spent.declare {s : State} (spent : Spent s) {stem : String} {statement : Node}
    (declared : statement.declares? = some (s.nextName stem)) :
    Spent ((s.mint stem).add statement) := by
  have names : Source.declaredNames ((s.mint stem).add statement).statements =
      Source.declaredNames s.statements ++ [s.nextName stem] := by
    rw [Source.declaredNames, State.add, List.filterMap_append, List.filterMap_cons_some declared]
    rfl
  intro other known index below
  rw [names]
  change index < (s.names.advance stem).index other at below
  rw [NameSupply.index_advance] at below
  by_cases old : index < s.names.index other
  · exact List.mem_append_left _ (spent other known index old)
  · by_cases same : other = stem
    · subst same
      rw [if_pos rfl] at below
      have last : index = s.names.index other := by omega
      rw [last]
      exact List.mem_append_right _ (List.mem_singleton_self _)
    · rw [if_neg same] at below
      exact absurd below old

/-- Each name that is given out in a run is declared by it. -/
theorem Spent.course {s t : State} {used : List (List UInt8)} {tables : List (String × String)}
    (course : Course among files s used tables t) (spent : Spent s) : Spent t := by
  have grown := course.grows
  induction course with
  | still _ names => exact spent.of_extends grown names
  | trans first second ih ih' => exact ih' (ih spent first.grows) second.grows
  | heading => exact spent.of_extends grown rfl
  | store _ _ run =>
    rcases takes_buffer.mp run with ⟨_, rfl⟩ | ⟨_, _, rfl⟩
    · exact spent
    · exact spent.declare rfl
  | array => exact spent.declare rfl
  | table => exact spent.of_extends grown rfl

/-- What is declared and is no array of bytes has a plain name, or a name for other arrays. -/
def NamedApart (s : State) : Prop :=
  ∀ statement ∈ s.statements, statement.isByteArray = false →
    ∀ name, statement.declares? = some name → NameSupply.isPlain name = true ∨ NamesOther name

/-- A source without declarations is named apart. -/
theorem NamedApart.start {statements : List Node} (none : Source.declaredNames statements = [])
    (types : TypeTables) (names : NameSupply) : NamedApart (.start statements types names) := by
  intro statement member _ name declared
  have undeclared := List.filterMap_eq_nil_iff.mp none statement member
  rw [declared] at undeclared
  cases undeclared

/-- A declaration under a name of its kind keeps a source named apart. -/
theorem NamedApart.add {s : State} (apart : NamedApart s) {statement : Node}
    (names : statement.isByteArray = false → ∀ name, statement.declares? = some name →
      NameSupply.isPlain name = true ∨ NamesOther name) : NamedApart (s.add statement) := by
  intro other member
  rcases List.mem_append.mp member with old | new
  · exact apart other old
  · rw [List.mem_singleton.mp new]
    exact names

theorem NamedApart.of_eq {s t : State} (apart : NamedApart s)
    (statements : t.statements = s.statements) : NamedApart t := by
  rw [NamedApart, statements]
  exact apart

/-- A run keeps a source named apart. -/
theorem NamedApart.course {s t : State} {used : List (List UInt8)}
    {tables : List (String × String)} (course : Course among files s used tables t)
    (apart : NamedApart s) : NamedApart t := by
  induction course with
  | still statements => exact apart.of_eq statements
  | trans _ _ first second => exact second (first apart)
  | heading s => exact apart.add fun _ _ declared => nomatch declared
  | @store s _ data stem _ _ _ run =>
    rcases takes_buffer.mp run with ⟨_, rfl⟩ | ⟨_, _, rfl⟩
    · exact apart
    · have minted : NamedApart (s.mint stem) := apart.of_eq rfl
      have added : NamedApart ((s.mint stem).add (Source.declareBytes data (s.nextName stem))) :=
        minted.add fun bytes => Bool.noConfusion bytes
      exact added.of_eq rfl
  | @array s stem _ _ _ known =>
    refine (apart.of_eq rfl : NamedApart (s.mint stem)).add fun _ name declared => ?_
    rw [← Option.some.inj declared]
    exact .inr ⟨stem, known, _, rfl⟩
  | table plain =>
    refine (apart.add fun _ name declared => ?_).add fun _ name declared => ?_
    · rw [← Option.some.inj declared]
      exact .inl plain
    · rw [← Option.some.inj declared]
      exact .inl (NameSupply.isPlain_sizeName _)

/-- The tables of a run and the numbers of their rows are all that is declared under names of their
own. -/
theorem Course.plainNames {s t : State} {used : List (List UInt8)} {tables : List (String × String)}
    (course : Course among files s used tables t) :
    plainNames t.statements =
      plainNames s.statements ++ tables.flatMap fun table => [table.2, sizeName table.2] := by
  induction course with
  | still statements => rw [statements, List.flatMap_nil, List.append_nil]
  | trans _ _ first second => rw [second, first, List.flatMap_append, List.append_assoc]
  | heading s => exact plainNames_append _ _
  | store known _ run =>
    rcases takes_buffer.mp run with ⟨_, rfl⟩ | ⟨_, _, rfl⟩
    · rw [List.flatMap_nil, List.append_nil]
    · refine (plainNames_append _ _).trans ?_
      rw [plainNames_of_given rfl (NameSupply.not_isPlain_name _ _)]
      rfl
  | array _ known _ _ =>
    refine (plainNames_append _ _).trans ?_
    rw [plainNames_of_given rfl (NameSupply.not_isPlain_name _ _)]
    rfl
  | @table s struct name rows plain =>
    have sized := NameSupply.isPlain_sizeName name
    refine (plainNames_append _ _).trans ?_
    refine (congrArg (· ++ _) (plainNames_append _ _)).trans ?_
    rw [List.append_assoc]
    congr 1
    simp [Compile.plainNames, Source.declaredNames, Node.declares?, Node.declare, Node.declareConst,
      Node.named, Node.makeConstant, plain, sized]

/-! ### Arrays of bytes -/

/-- The arrays of bytes in the source hold the given bytes under the given names, and are known by
the digests of their bytes. -/
structure Holds (s : State) (held : List (List UInt8 × String)) : Prop where
  arrays : Source.byteArrays s.statements =
    held.map fun array => Source.declareBytes array.1 array.2
  buffers : s.buffers = held.map fun array => (hexDigest array.1, array.2)
  apart : (held.map fun array => hexDigest array.1).Nodup

/-- At the start nothing is held. -/
theorem Holds.start {statements : List Node} (none : Source.byteArrays statements = [])
    (types : TypeTables) (names : NameSupply) : Holds (.start statements types names) [] where
  arrays := none
  buffers := rfl
  apart := List.nodup_nil

theorem Holds.of_eq {s t : State} {held : List (List UInt8 × String)} (holds : Holds s held)
    (arrays : Source.byteArrays t.statements = Source.byteArrays s.statements)
    (buffers : t.buffers = s.buffers) : Holds t held where
  arrays := arrays.trans holds.arrays
  buffers := buffers.trans holds.buffers
  apart := holds.apart

/-- The array that is known for a digest. -/
theorem Holds.lookup {s : State} {held : List (List UInt8 × String)} (holds : Holds s held)
    {digest name : String} (known : s.buffers.lookup digest = some name) :
    ∃ array ∈ held, hexDigest array.1 = digest ∧ array.2 = name := by
  rw [holds.buffers] at known
  obtain ⟨before, after, split, _⟩ := List.lookup_eq_some_iff.mp known
  have member : (digest, name) ∈ held.map fun array => (hexDigest array.1, array.2) := by
    rw [split]
    exact List.mem_append_right _ List.mem_cons_self
  obtain ⟨array, inside, same⟩ := List.mem_map.mp member
  exact ⟨array, inside, congrArg Prod.fst same, congrArg Prod.snd same⟩

/-- Bytes whose digest is not known get an array of their own. -/
theorem Holds.store {s : State} {held : List (List UInt8 × String)} (holds : Holds s held)
    {data : List UInt8} (unknown : s.buffers.lookup (hexDigest data) = none) (stem : String) :
    Holds (s.store data stem) (held ++ [(data, s.nextName stem)]) := by
  constructor
  · rw [List.map_append, ← holds.arrays]
    exact List.filter_append _ _
  · rw [List.map_append, ← holds.buffers]
    rfl
  · rw [List.map_append]
    refine List.nodup_append.mpr ⟨holds.apart, List.nodup_singleton _, ?_⟩
    intro digest old digest' new same
    obtain ⟨array, member, rfl⟩ := List.mem_map.mp old
    have last : digest' = hexDigest data := by simpa using new
    have clash : hexDigest data = hexDigest array.1 := last.symm.trans same.symm
    rw [holds.buffers, List.lookup_eq_none_iff] at unknown
    have differs := unknown _ (List.mem_map.mpr ⟨array, member, rfl⟩)
    simp [clash] at differs

/-- Arrays are added for the bytes that are stored: for none but them, and so that the digest of
each is known. -/
structure Covers (held new : List (List UInt8 × String)) (used : List (List UInt8)) : Prop where
  stored : ∀ array ∈ new, array.1 ∈ used
  covered : ∀ data ∈ used, ∃ array ∈ held ++ new, hexDigest array.1 = hexDigest data

theorem Covers.nil (held : List (List UInt8 × String)) : Covers held [] [] :=
  ⟨nofun, nofun⟩

theorem Covers.trans {held new new' : List (List UInt8 × String)} {used used' : List (List UInt8)}
    (first : Covers held new used) (second : Covers (held ++ new) new' used') :
    Covers held (new ++ new') (used ++ used') := by
  constructor
  · intro array member
    rcases List.mem_append.mp member with early | late
    · exact List.mem_append_left _ (first.stored array early)
    · exact List.mem_append_right _ (second.stored array late)
  · intro data member
    rw [← List.append_assoc]
    rcases List.mem_append.mp member with early | late
    · obtain ⟨array, inside, same⟩ := first.covered data early
      exact ⟨array, List.mem_append_left _ inside, same⟩
    · exact second.covered data late

/-- A run that declares no array of bytes. -/
theorem Holds.idle {s t : State} {held : List (List UInt8 × String)} (holds : Holds s held)
    (arrays : Source.byteArrays t.statements = Source.byteArrays s.statements)
    (buffers : t.buffers = s.buffers) : ∃ new, Holds t (held ++ new) ∧ Covers held new [] := by
  refine ⟨[], ?_, .nil held⟩
  rw [List.append_nil]
  exact holds.of_eq arrays buffers

/-- Another statement than an array of bytes leaves these as they are. -/
theorem byteArrays_add {s : State} {statement : Node} (other : statement.isByteArray = false) :
    Source.byteArrays (s.add statement).statements = Source.byteArrays s.statements := by
  rw [State.add, Source.byteArrays_append, Source.byteArrays_singleton_of_not other,
    List.append_nil]

/-- A run adds arrays for the bytes that it stores. -/
theorem Holds.course {s t : State} {used : List (List UInt8)} {tables : List (String × String)}
    (course : Course among files s used tables t) {held : List (List UInt8 × String)}
    (holds : Holds s held) : ∃ new, Holds t (held ++ new) ∧ Covers held new used := by
  induction course generalizing held with
  | still statements names buffers => exact holds.idle (by rw [statements]) buffers
  | trans _ _ first second =>
    obtain ⟨new, holds, covers⟩ := first holds
    obtain ⟨new', holds, covers'⟩ := second holds
    refine ⟨new ++ new', ?_, covers.trans covers'⟩
    rw [← List.append_assoc]
    exact holds
  | heading s => exact holds.idle (byteArrays_add rfl) rfl
  | @store s t data stem name _ _ run =>
    rcases takes_buffer.mp run with ⟨known, rfl⟩ | ⟨unknown, _, rfl⟩
    · -- Bytes of a known digest get no new array; the one that is held covers them.
      refine ⟨[], ?_, nofun, ?_⟩
      · rw [List.append_nil]
        exact holds
      · intro other member
        rw [List.mem_singleton.mp member]
        obtain ⟨array, inside, same, _⟩ := holds.lookup known
        exact ⟨array, List.mem_append_left _ inside, same⟩
    · refine ⟨_, holds.store unknown stem, by simp, ?_⟩
      intro other member
      rw [List.mem_singleton.mp member]
      exact ⟨_, List.mem_append_right _ (List.mem_singleton_self _), rfl⟩
  | array isConstant _ formed _ =>
    have other := Source.ne_uint8_of_elementForm? formed
    exact holds.idle (byteArrays_add (Node.isByteArray_declareArray other _ isConstant _)) rfl
  | table => exact holds.idle ((byteArrays_add rfl).trans (byteArrays_add rfl)) rfl

/-! ### Rows -/

/-- Kexts may be at any place. -/
def Reading.loose (r : Reading) : Reading := { r with place := fun _ _ => True }

/-- What a source says is said by every source that extends it. -/
theorem Extends.within {s t : State} (grown : Extends s t) :
    (s.reading among files).loose.Within (t.reading among files).loose where
  source := grown.mem
  refers := fun ⟨member, name, known, same⟩ => ⟨member, name, grown.buffers known, same⟩
  place := fun _ => trivial
  kextTable := grown.kextTable
  files := rfl

/-- The rows of a declaration of a struct type say what some entity is. -/
def TypedIn (among : List UInt8 → Prop) (s : State) (statement : Node) : Prop :=
  ∀ struct rows declared isStatic isConstant,
    statement = .assign (.declarator (Source.structArray struct) declared isStatic isConstant)
      (.literal rows) →
    ∀ row ∈ rows, ∃ files, (s.reading among files).loose.Element (.structType struct) row

/-- The rows of a source say what entities are. -/
def Typed (among : List UInt8 → Prop) (s : State) : Prop :=
  ∀ statement ∈ s.statements, TypedIn among s statement

theorem TypedIn.mono {s t : State} {statement : Node} (grown : Extends s t)
    (typed : TypedIn among s statement) : TypedIn among t statement := by
  intro struct rows declared isStatic isConstant same row member
  obtain ⟨files, element⟩ := typed struct rows declared isStatic isConstant same row member
  exact ⟨files, element.mono grown.within⟩

/-- A declaration is typed if its elements are those of its type. -/
theorem typedIn_of_elements {s : State} {type name : Node} {isStatic isConstant : Bool}
    {elements : List Node}
    (each : ∀ node ∈ elements, (s.reading among files).Element type node) :
    TypedIn among s
      (.assign (.declarator (.arrayType type) name isStatic isConstant) (.literal elements)) := by
  rintro struct rows declared isStatic' isConstant' ⟨⟩ row member
  refine ⟨files, (each row member).mono ?_⟩
  exact { source := id, refers := id, place := fun _ => trivial, kextTable := rfl, files := rfl }

/-- Statements that are added have to be typed. -/
theorem Typed.grow {s t : State} {added : List Node} (typed : Typed among s) (grown : Extends s t)
    (statements : t.statements = s.statements ++ added)
    (each : ∀ statement ∈ added, TypedIn among s statement) : Typed among t := by
  intro statement member
  rw [statements] at member
  rcases List.mem_append.mp member with old | new
  · exact (typed statement old).mono grown
  · exact (each statement new).mono grown

/-- A run keeps a source typed. -/
theorem Typed.course {s t : State} {used : List (List UInt8)} {tables : List (String × String)}
    (course : Course among files s used tables t) (typed : Typed among s) : Typed among t := by
  have grown := course.grows
  induction course with
  | still statements => exact typed.grow grown (statements.trans (List.append_nil _).symm) nofun
  | trans first second ih ih' => exact ih' (ih typed first.grows) second.grows
  | heading s =>
    refine typed.grow grown rfl fun statement member => ?_
    rw [List.mem_singleton.mp member]
    exact nofun
  | store _ _ run =>
    rcases takes_buffer.mp run with ⟨_, rfl⟩ | ⟨_, _, rfl⟩
    · exact typed
    · refine typed.grow grown rfl fun statement member => ?_
      rw [List.mem_singleton.mp member]
      exact nofun
  | array _ _ _ each =>
    refine typed.grow grown rfl fun statement member => ?_
    rw [List.mem_singleton.mp member]
    exact typedIn_of_elements each
  | @table s struct name rows _ _ each =>
    refine typed.grow grown (List.append_assoc _ [_] [_]) fun statement member => ?_
    rcases List.mem_cons.mp member with rfl | last
    · exact typedIn_of_elements each
    · rw [List.mem_singleton.mp last]
      exact nofun

end CodecTables.Compile
