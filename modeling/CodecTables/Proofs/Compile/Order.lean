import CodecTables.Proofs.Compile.Kexts

/-!
# Declarations before their uses

Compiling adds statements that may stand where they do: each name in a value is declared before it,
with the type that its place calls for (`InTurn`). This holds of every run that begins where the
known arrays of bytes are declared, and the kext table if a kext is known (`Grounded`). The rows of
a kext table are compiled before the table is declared, but they do not refer to kexts.
-/

namespace CodecTables.Compile

open Files (Tree)
open Resource
open Source (Admits Declares Form InTurn Node fitEach_cons fitEach_nil)

variable {among : List UInt8 → Prop} {files : Tree} {s t : State}

/-- What rows may refer to is declared: the known arrays of bytes, and the kext table if a kext is
known. -/
structure Grounded (s : State) : Prop where
  buffers : ∀ {digest name}, s.buffers.lookup digest = some name →
    Declares s.statements name Source.uint8
  kexts : ∀ {text place}, Plist.Dictionary.find? s.kexts text = some place →
    Declares s.statements s.kextTable (.structType "KernelPatcher::KextInfo")

/-- At the start there are no arrays or kexts that would have to be declared. -/
theorem Grounded.start (statements : List Node) (types : TypeTables) (names : NameSupply) :
    Grounded (.start statements types names) :=
  ⟨nofun, nofun⟩

/-! ### Forms of rows -/

/-- An array that is given by its name is declared under it. -/
theorem Reading.Names.declares {r : Reading} {element node : Node} {elements : List Node}
    (names : r.Names element elements node) :
    ∃ name, Declares r.source name element ∧ node = .identifier name := by
  obtain ⟨name, same, member⟩ := names
  exact ⟨name, ⟨true, true, _, member⟩, same⟩

/-- Revisions are given by no array, or by one that is declared. -/
theorem Reading.RevisionArray.declares {r : Reading} {codes : List Int} {node : Node}
    (array : r.RevisionArray codes node) :
    node = .nullPointer ∨ ∃ name, Declares r.source name Source.uint32 ∧ node = .identifier name :=
  array.imp And.right fun present => present.2.declares

section Rows

variable (grounded : Grounded s)

include grounded

theorem Grounded.refers {data : List UInt8} {node : Node}
    (refers : (s.reading among files).refers data node) :
    ∃ name, Declares s.statements name Source.uint8 ∧ node = .identifier name := by
  obtain ⟨_, name, known, same⟩ := refers
  exact ⟨name, grounded.buffers known, same⟩

/-- The elements of arrays have the forms of their types, with all names in them declared. -/
theorem Grounded.fits {type node : Node}
    (element : (s.reading among files).Element type node) :
    ∃ form, Source.elementForm? type = some form ∧ form.Fits (Declares s.statements) node := by
  cases element with
  | text content => exact ⟨_, rfl, content, rfl⟩
  | revision code => exact ⟨_, rfl, code, rfl⟩
  | lookup reads =>
    obtain ⟨_, names, rfl⟩ := reads
    refine ⟨_, rfl, _, rfl, ?_⟩
    simp only [fitEach_cons]
    exact ⟨names.declares, ⟨_, rfl⟩, ⟨_, rfl⟩, ⟨_, rfl⟩, fitEach_nil⟩
  | kext reads =>
    obtain ⟨_, names, rfl⟩ := reads
    have modes (loadable reloadable : Bool) : (Form.row [.boolean, .boolean]).Fits
        (Declares s.statements) (.literal [.boolean loadable, .boolean reloadable]) :=
      ⟨_, rfl, fitEach_cons.mpr ⟨⟨_, rfl⟩, fitEach_cons.mpr ⟨⟨_, rfl⟩, fitEach_nil⟩⟩⟩
    have mode (detect : Bool) : (Form.row [.boolean]).Fits (Declares s.statements)
        (.literal [.boolean detect]) := ⟨_, rfl, fitEach_cons.mpr ⟨⟨_, rfl⟩, fitEach_nil⟩⟩
    refine ⟨_, rfl, _, rfl, ?_⟩
    simp only [fitEach_cons]
    exact ⟨⟨_, rfl⟩, names.declares, ⟨_, rfl⟩, modes _ _, mode _, rfl, fitEach_nil⟩
  | patch reads =>
    obtain ⟨place, _, _, placed, found, replaced, rfl⟩ := reads
    have kext : (Form.place "KernelPatcher::KextInfo").Fits (Declares s.statements)
        (.lookup (.addressOf (.identifier s.kextTable)) (.integer place)) :=
      ⟨_, _, grounded.kexts placed, rfl⟩
    refine ⟨_, rfl, _, rfl, ?_⟩
    simp only [fitEach_cons]
    refine ⟨⟨_, rfl, ?_⟩, ⟨_, rfl⟩, ⟨_, rfl⟩, fitEach_nil⟩
    simp only [fitEach_cons]
    exact ⟨kext, grounded.refers found, grounded.refers replaced, ⟨_, rfl⟩, ⟨_, rfl⟩, fitEach_nil⟩
  | file reads =>
    obtain ⟨content, size, holds, rfl⟩ := reads
    have bytes : (Form.optional Source.uint8).Fits (Declares s.statements) content := by
      generalize (s.reading among files).files.read _ = read at holds
      cases holds with
      | present refers => exact .inr (grounded.refers refers)
      | absent problem => exact .inl rfl
    refine ⟨_, rfl, _, rfl, ?_⟩
    simp only [fitEach_cons]
    exact ⟨bytes, ⟨_, rfl⟩, ⟨_, rfl⟩, ⟨_, rfl⟩, ⟨_, rfl⟩, fitEach_nil⟩
  | codec reads =>
    obtain ⟨_, _, _, _, ⟨_, _, layouts⟩, ⟨_, _, platforms⟩, ⟨_, _, patches⟩, revised, rfl⟩ :=
      reads
    refine ⟨_, rfl, _, rfl, ?_⟩
    simp only [fitEach_cons]
    exact ⟨⟨_, rfl⟩, ⟨_, rfl⟩, revised.declares, ⟨_, rfl⟩, platforms.declares, ⟨_, rfl⟩,
      layouts.declares, ⟨_, rfl⟩, patches.declares, ⟨_, rfl⟩, fitEach_nil⟩
  | group reads =>
    obtain ⟨rows, name, _, declared, rfl⟩ := reads
    have codecs : Declares s.statements name (.structType "CodecModInfo") := ⟨_, _, _, declared⟩
    refine ⟨_, rfl, _, rfl, ?_⟩
    simp only [fitEach_cons]
    exact ⟨⟨_, rfl⟩, ⟨_, rfl⟩, ⟨name, codecs, rfl⟩, ⟨_, rfl⟩, fitEach_nil⟩
  | controller reads =>
    obtain ⟨_, _, ⟨_, _, patches⟩, revised, rfl⟩ := reads
    refine ⟨_, rfl, _, rfl, ?_⟩
    simp only [fitEach_cons]
    exact ⟨⟨_, rfl⟩, ⟨_, rfl⟩, ⟨_, rfl⟩, revised.declares, ⟨_, rfl⟩, ⟨_, rfl⟩, ⟨_, rfl⟩,
      patches.declares, ⟨_, rfl⟩, fitEach_nil⟩

/-- A declaration of an array may stand where its elements were read. -/
theorem Grounded.admits {type : Node} {elements : List Node}
    (formed : (Source.elementForm? type).isSome)
    (each : ∀ node ∈ elements, (s.reading among files).Element type node) (name : String)
    (isStatic isConstant : Bool) :
    Admits s.statements
      (.assign (.declarator (.arrayType type) (.identifier name) isStatic isConstant)
        (.literal elements)) := by
  obtain ⟨form, known⟩ := Option.isSome_iff_exists.mp formed
  refine ⟨_, Source.valueForm?_arrayType known, elements, rfl, fun node member => ?_⟩
  obtain ⟨other, known', fits⟩ := grounded.fits (each node member)
  rw [known'] at known
  rw [← Option.some.inj known]
  exact fits

end Rows

/-! ### Runs -/

/-- What a run adds may stand where it does. -/
def Adds (s t : State) : Prop :=
  ∃ added, t.statements = s.statements ++ added ∧ InTurn s.statements added

theorem Adds.of_eq (same : t.statements = s.statements) : Adds s t :=
  ⟨[], same.trans (List.append_nil _).symm, trivial⟩

theorem Adds.trans {u : State} (first : Adds s t) (second : Adds t u) : Adds s u := by
  obtain ⟨added, same, inTurn⟩ := first
  obtain ⟨added', same', inTurn'⟩ := second
  rw [same] at same' inTurn'
  exact ⟨added ++ added', same'.trans (List.append_assoc _ _ _),
    Source.inTurn_append.mpr ⟨inTurn, inTurn'⟩⟩

/-- A statement that may stand at the end of a source. -/
theorem Adds.add {statement : Node} (same : t.statements = s.statements ++ [statement])
    (admits : Admits s.statements statement) : Adds s t :=
  ⟨[statement], same, Source.inTurn_singleton.mpr admits⟩

theorem admits_declareBytes (source : List Node) (data : List UInt8) (name : String) :
    Admits source (Source.declareBytes data name) :=
  ⟨_, rfl, data, rfl⟩

/-- New bytes are declared under the name that is known for them. -/
theorem Grounded.store (grounded : Grounded s) (data : List UInt8) (stem : String) :
    Grounded (s.store data stem) := by
  have within : s.statements ⊆ (s.store data stem).statements := fun _ => List.mem_append_left _
  constructor
  · intro digest name known
    rw [show (s.store data stem).buffers = s.buffers ++ [(_, s.nextName stem)] from rfl,
      List.lookup_append, Option.or_eq_some_iff] at known
    rcases known with old | ⟨_, new⟩
    · exact (grounded.buffers old).mono within
    · rw [List.lookup_cons] at new
      split at new
      · rw [← Option.some.inj new]
        exact ⟨true, true, _, List.mem_append_right _ (List.mem_singleton_self _)⟩
      · cases new
  · exact fun known => (grounded.kexts known).mono within

/-- A state that extends a grounded one is grounded, unless it knows more arrays or kexts. -/
theorem Grounded.of_extends (grounded : Grounded s) (grown : Extends s t)
    (buffers : t.buffers = s.buffers) (kexts : t.kexts = s.kexts) : Grounded t where
  buffers known := (grounded.buffers (buffers ▸ known)).mono grown.statements.subset
  kexts known := by
    rw [grown.kextTable]
    exact (grounded.kexts (kexts ▸ known)).mono grown.statements.subset

/-- A title is a single line. -/
theorem newline_notMem_title {title : String} (listed : title ∈ titles) : '\n' ∉ title.toList := by
  have single : ∀ title ∈ titles, '\n' ∉ title.toList := by decide
  exact single title listed

/-- A run from where references are declared adds only what may stand where it does. -/
theorem Grounded.course {used : List (List UInt8)} {tables : List (String × String)}
    (course : Course among files s used tables t) (grounded : Grounded s) :
    Grounded t ∧ Adds s t := by
  have grown := course.grows
  induction course with
  | still statements names buffers kexts =>
    exact ⟨grounded.of_extends grown buffers kexts, .of_eq statements⟩
  | trans first second ih ih' =>
    obtain ⟨middle, added⟩ := ih grounded first.grows
    obtain ⟨last, added'⟩ := ih' middle second.grows
    exact ⟨last, added.trans added'⟩
  | heading s listed =>
    have single := newline_notMem_title listed
    exact ⟨grounded.of_extends grown rfl rfl, .add rfl ⟨_, rfl, by simpa using single⟩⟩
  | store _ _ run =>
    rcases takes_buffer.mp run with ⟨_, rfl⟩ | ⟨_, _, rfl⟩
    · exact ⟨grounded, .of_eq rfl⟩
    · exact ⟨grounded.store _ _, .add rfl (admits_declareBytes _ _ _)⟩
  | array isConstant _ formed each =>
    exact ⟨grounded.of_extends grown rfl rfl,
      .add rfl (grounded.admits formed each _ true isConstant)⟩
  | @table s struct name rows _ formed each =>
    have declared : Adds s (s.add (.declare (Source.structArray struct) name (.literal rows))) :=
      .add rfl (grounded.admits formed each name false false)
    have sized : Adds (s.add (.declare (Source.structArray struct) name (.literal rows)))
        ((s.add _).add (.declareConst .sizeType (sizeName name) (.integer rows.length))) :=
      .add rfl ⟨_, rfl, _, rfl⟩
    exact ⟨grounded.of_extends grown rfl rfl, declared.trans sized⟩

/-! ### Kext tables -/

/-- The rows of kexts are the same whatever kexts are known. -/
theorem takes_kextInfos_of_register {entries : List (Plist.Scalar × KextInfo)} {rows : List Node}
    {kexts : List (Plist.Scalar × Nat)}
    (run : Takes (entries.mapM fun entry => kextInfo entry.2) (s.register kexts) rows t) :
    Takes (entries.mapM fun entry => kextInfo entry.2) s rows (t.register s.kexts) := by
  have steps := takes_mapM.mp run
  clear run
  generalize begun : s.register kexts = s' at steps
  induction steps generalizing s with
  | nil =>
    subst begun
    exact takes_mapM.mpr (.nil s)
  | @cons _ _ _ entry _ _ _ first _ ih =>
    subst begun
    obtain ⟨_, stored, rfl⟩ := takes_kextInfo.mp first
    obtain ⟨rfl, rfl⟩ := takes_stringArray.mp stored
    have here : Takes (kextInfo entry.2) s _ ((s.mint "kextPath").add
        (.declareStaticConst Source.stringArray (s.nextName "kextPath")
          (.literal (entry.2.paths.map .string)))) :=
      takes_kextInfo.mpr ⟨_, takes_stringArray.mpr ⟨rfl, rfl⟩, rfl⟩
    exact takes_mapM.mpr (.cons here (takes_mapM.mp (ih rfl)))

/-- The rows of a kext table do not refer to kexts, so they may stand before it. -/
theorem Grounded.kextTable {table : KextTable} {u : Unit} (grounded : Grounded s)
    (run : Takes (kextTable table) s u t) : Grounded t ∧ Adds s t := by
  obtain ⟨rows, v, steps, declared⟩ := takes_kextTable.mp run
  have each (entry : Plist.Scalar × KextInfo) :
      Yields (fun _ => True) Tree.empty (fun _ => True) [] (kextInfo entry.2)
        fun r => r.KextRow entry.2 := yields_kextInfo entry.2
  obtain ⟨course, reads⟩ := yields_mapM_nil (fun _ _ _ _ within row => row.mono within) each
    table.entries trivial (by simp) (takes_kextInfos_of_register steps)
  have heading : Course (fun _ => True) Tree.empty s [] [] (s.headed "Kexts Section") :=
    .heading s (by decide)
  obtain ⟨settled, added⟩ := grounded.course (heading.append course)
  have admits := settled.admits rfl (Reading.elements_of_forall₂ reads fun _ _ => .kext)
    v.kextTable false false
  have same := takes_declareTable.mp declared
  have last : Adds v t := by
    rw [same]
    exact (Adds.add rfl admits).trans (.add rfl ⟨_, rfl, _, rfl⟩)
  refine ⟨?_, added.trans last⟩
  have within : v.statements ⊆ t.statements := by
    obtain ⟨more, grown, _⟩ := last
    rw [grown]
    exact fun _ => List.mem_append_left _
  constructor
  · intro digest name known
    rw [same] at known
    exact (settled.buffers known).mono within
  · intro text place _
    refine ⟨false, false, .literal rows, ?_⟩
    rw [same]
    exact List.mem_append_left _ (List.mem_append_right _ (List.mem_singleton_self _))

/-! ### Entities -/

/-- An entity adds only what may stand where it does. -/
theorem Grounded.entity {e : Entity} {nodes : List Node} (grounded : Grounded s)
    (plain : NameSupply.isPlain s.kextTable = true) (run : Takes (entity files e) s nodes t) :
    Grounded t ∧ Adds s t := by
  cases known : e.kextTable? with
  | some table =>
    cases e with
    | kextTable own => exact grounded.kextTable (takes_nothing.mp run).1
    | _ => exact nomatch known
  | none =>
    obtain ⟨course, _⟩ : Course (fun _ => True) files _ _ _ t ∧ _ :=
      course_entity plain (fun _ _ => trivial) run
    have places : placesAfter s.kexts e = s.kexts := by
      cases e with
      | kextTable table => exact nomatch known
      | _ => rfl
    rw [places] at course
    exact grounded.course course

/-- Entities that are compiled one after the other add only what may stand where it does. -/
theorem Grounded.visits {list : List Visit} {results : List (List Node)} (grounded : Grounded s)
    (plain : NameSupply.isPlain s.kextTable = true) (run : Takes (visits buffer list) s results t) :
    Grounded t ∧ Adds s t := by
  have steps := takes_mapM.mp run
  clear run
  induction steps with
  | nil => exact ⟨grounded, .of_eq rfl⟩
  | @cons s u t visit nodes rest results first _ ih =>
    obtain ⟨middle, added⟩ := grounded.entity plain first
    have name : u.kextTable = s.kextTable :=
      ((extends_entityWith extends_buffer _ _).of_takes first).kextTable
    obtain ⟨last, added'⟩ := ih middle (name ▸ plain)
    exact ⟨last, added.trans added'⟩

end CodecTables.Compile
