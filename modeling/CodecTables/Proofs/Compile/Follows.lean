import CodecTables.Proofs.Compile.Fresh

/-!
# States that follow each other

A run that shares arrays and one that does not lead to states that differ in their arrays of bytes
and in the names of these alone (`Follows`). Changes that are made on both sides keep them so, and
so does storing bytes, on one side in a known array and on the other in a fresh one
(`Follows.buffer`).
-/

namespace CodecTables.Compile

open Data.Sha256 (hexDigest)
open Files (Path)
open Source (Node)

variable {among : List UInt8 → Prop}

/-- The states differ in their arrays of bytes and in the names of these alone. An array that is
known for a digest in the first holds all of the given bytes that have this digest. -/
structure Follows (among : List UInt8 → Prop) (s s' : State) : Prop where
  others : List.Forall₂ (Alike s s') (Source.otherStatements s.statements)
    (Source.otherStatements s'.statements)
  held : ∀ {data name}, among data → s.buffers.lookup (hexDigest data) = some name →
    Source.declareBytes data name ∈ s.statements
  shared : Numbered s.statements s.names
  fresh : Numbered s'.statements s'.names
  names : ∀ stem ∈ otherStems, s'.names.index stem = s.names.index stem
  types : s'.types = s.types
  kexts : s'.kexts = s.kexts
  kextTable : s'.kextTable = s.kextTable
  directory : s'.directory = s.directory
  log : s'.log = s.log
  plain : NameSupply.isPlain s.kextTable = true

namespace Follows

variable {s s' : State}

/-- A run from the empty source follows itself. -/
theorem start (types : TypeTables) (names : NameSupply) :
    Follows among (.start [] types names) (.start [] types names) where
  others := .nil
  held _ known := nomatch known
  shared := .nil names
  fresh := .nil names
  names _ _ := rfl
  types := rfl
  kexts := rfl
  kextTable := rfl
  directory := rfl
  log := rfl
  plain := NameSupply.isPlain_kextTable

/-- The use of a struct type is followed by the same use. -/
theorem use (follows : Follows among s s') (name : String) :
    Follows among (s.use name) (s'.use name) :=
  { follows with types := congrArg (·.use name) follows.types }

/-- The registration of kexts is followed by the same registration. -/
theorem register (follows : Follows among s s') (kexts : List (Plist.Scalar × Nat)) :
    Follows among (s.register kexts) (s'.register kexts) :=
  { follows with kexts := rfl }

theorem enter (follows : Follows among s s') (directory : Path) :
    Follows among { s with directory := directory } { s' with directory := directory } :=
  { follows with directory := rfl }

theorem warn (follows : Follows among s s') (message : String) :
    Follows among { s with log := s.log ++ [⟨.warning, .compiler, message⟩] }
      { s' with log := s'.log ++ [⟨.warning, .compiler, message⟩] } :=
  { follows with log := congrArg (· ++ _) follows.log }

/-- A number of a stem is given out on both sides. -/
theorem mint (follows : Follows among s s') (stem : String) :
    Follows among (s.mint stem) (s'.mint stem) :=
  { follows with
    shared := follows.shared.advance stem
    fresh := follows.fresh.advance stem
    names := by
      intro stem' known
      change (s'.names.advance stem).index stem' = (s.names.advance stem).index stem'
      rw [NameSupply.index_advance, NameSupply.index_advance, follows.names stem' known] }

/-- Statements that are alike are added on both sides. -/
theorem add (follows : Follows among s s') {statement statement' : Node}
    (other : statement.isByteArray = false) (other' : statement'.isByteArray = false)
    (alike : Alike s s' statement statement') :
    Follows among (s.add statement) (s'.add statement') := by
  have grown : Extends s (s.add statement) := .add s _
  have grown' : Extends s' (s'.add statement') := .add s' _
  refine { follows with
    others := ?_
    held := fun member known => grown.mem (follows.held member known)
    shared := follows.shared.add other
    fresh := follows.fresh.add other' }
  rw [State.add, State.add, Source.otherStatements_append, Source.otherStatements_append,
    Source.otherStatements_singleton other, Source.otherStatements_singleton other']
  refine List.rel_append ?_ (.cons (alike.mono grown grown') .nil)
  exact forall₂_alike_mono follows.others grown grown'

theorem headed (follows : Follows among s s') (title : String) :
    Follows among (s.headed title) (s'.headed title) :=
  follows.add rfl rfl (alike_of_closed fun _ => rfl)

/-- Names of other arrays than of bytes are the same in both runs. -/
theorem nextName (follows : Follows among s s') {stem : String} (known : stem ∈ otherStems) :
    s'.nextName stem = s.nextName stem := by
  rw [State.nextName, State.nextName, follows.names stem known]

/-- Arrays of elements that are alike are declared on both sides, under the same name. -/
theorem array (follows : Follows among s s') {stem : String} {type : Node}
    {nodes nodes' : List Node} (known : stem ∈ otherStems) (other : type ≠ Source.uint8)
    (isConstant : Bool) (each : List.Forall₂ (Alike s s') nodes nodes') :
    Follows among ((s.mint stem).add (.declareArray type (s.nextName stem) isConstant nodes))
      ((s'.mint stem).add (.declareArray type (s'.nextName stem) isConstant nodes')) := by
  refine (follows.mint stem).add (Node.isByteArray_declareArray other _ _ _)
    (Node.isByteArray_declareArray other _ _ _) ?_
  rw [follows.nextName known]
  exact alike_assign (alike_literal each) _

/-- The names of arrays that were declared last are alike. -/
theorem alike_nextName (follows : Follows among s s') {stem : String} (known : stem ∈ otherStems)
    {t t' : State} :
    Alike t t' (.identifier (s.nextName stem)) (.identifier (s'.nextName stem)) := by
  rw [follows.nextName known]
  exact alike_of_foreign (not_namesBytes_name known _)

/-- Tables of rows that are alike are declared on both sides. -/
theorem table (follows : Follows among s s') (struct name : String) {rows rows' : List Node}
    (each : List.Forall₂ (Alike s s') rows rows') :
    Follows among
      (((s.use struct).add (.declare (Source.structArray struct) name (.literal rows))).add
        (.declareConst .sizeType (sizeName name) (.integer rows.length)))
      (((s'.use struct).add (.declare (Source.structArray struct) name (.literal rows'))).add
        (.declareConst .sizeType (sizeName name) (.integer rows'.length))) := by
  refine ((follows.use struct).add rfl rfl ?_).add rfl rfl ?_
  · exact alike_assign (alike_literal each) _
  · rw [each.length_eq]
    exact alike_of_closed fun _ => rfl

/-- Bytes are put into a fresh array on the second side only. -/
theorem reuse (follows : Follows among s s') {stem : String} (known : stem ∈ byteStems)
    (data : List UInt8) :
    Follows among s ((s'.mint stem).add (Source.declareBytes data (s'.nextName stem))) := by
  have grown' := (Extends.mint s' stem).trans
    (.add _ (Source.declareBytes data (s'.nextName stem)))
  refine { follows with
    others := ?_
    fresh := follows.fresh.declare known data
    names := ?_ }
  · rw [State.add, Source.otherStatements_declareBytes]
    exact forall₂_alike_mono follows.others (.refl s) grown'
  · intro stem' other
    have differs : stem' ≠ stem := by
      rintro rfl
      exact notMem_byteStems other known
    change (s'.names.advance stem).index stem' = s.names.index stem'
    rw [NameSupply.index_advance, if_neg differs, follows.names stem' other, Nat.add_zero]

/-- What is known after new bytes are stored is in the source. -/
theorem held_store (follows : Follows among s s') {data data' : List UInt8} {stem name : String}
    (apart : hexDigest data' = hexDigest data → data' = data) (member : among data')
    (found : (s.store data stem).buffers.lookup (hexDigest data') = some name) :
    Source.declareBytes data' name ∈ (s.store data stem).statements := by
  simp only [State.store, State.hold, State.add, State.mint, List.lookup_append] at found
  cases old : s.buffers.lookup (hexDigest data') with
  | some name' =>
    rw [old, Option.some_or, Option.some.injEq] at found
    rw [← found]
    exact List.mem_append_left _ (follows.held member old)
  | none =>
    rw [old, Option.none_or] at found
    by_cases same : hexDigest data' = hexDigest data
    · rw [same, List.lookup_cons_self, Option.some.injEq] at found
      rw [apart same, ← found]
      exact List.mem_append_right _ (List.mem_singleton_self _)
    · rw [List.lookup_cons, beq_false_of_ne same] at found
      cases found

/-- Bytes are put into a new array on both sides. -/
theorem store (follows : Follows among s s') {data : List UInt8} {stem : String}
    (apart : ∀ {data'}, among data' → hexDigest data' = hexDigest data → data' = data)
    (unknown : s.buffers.lookup (hexDigest data) = none) (known : stem ∈ byteStems) :
    Follows among (s.store data stem)
      ((s'.mint stem).add (Source.declareBytes data (s'.nextName stem))) := by
  have run : Takes (Compile.buffer data stem) s (s.nextName stem) (s.store data stem) :=
    takes_buffer.mpr (.inr ⟨unknown, rfl, rfl⟩)
  have grown := (extends_buffer data stem).of_takes run
  have grown' := (Extends.mint s' stem).trans
    (.add _ (Source.declareBytes data (s'.nextName stem)))
  refine { follows with
    others := ?_
    held := fun member found => follows.held_store (apart member) member found
    shared := follows.shared.declare known data
    fresh := follows.fresh.declare known data
    names := ?_ }
  · rw [State.store, State.hold, State.add, State.add, Source.otherStatements_declareBytes,
      Source.otherStatements_declareBytes]
    exact forall₂_alike_mono follows.others grown grown'
  · intro stem' other
    change (s'.names.advance stem).index stem' = (s.names.advance stem).index stem'
    rw [NameSupply.index_advance, NameSupply.index_advance, follows.names stem' other]

/-- Bytes are stored on both sides, in arrays of the same bytes. -/
theorem buffer (follows : Follows among s s') {data : List UInt8} {stem name : String} {t : State}
    (apart : ∀ {data'}, among data' → hexDigest data' = hexDigest data → data' = data)
    (known : stem ∈ byteStems) (member : among data) (run : Takes (buffer data stem) s name t) :
    ∃ name' t', Takes (freshBuffer data stem) s' name' t' ∧ Follows among t t' ∧
      Alike t t' (.identifier name) (.identifier name') := by
  have declared' : Source.declareBytes data (s'.nextName stem) ∈
      ((s'.mint stem).add (Source.declareBytes data (s'.nextName stem))).statements :=
    List.mem_append_right _ (List.mem_singleton_self _)
  refine ⟨_, _, takes_freshBuffer.mpr ⟨rfl, rfl⟩, ?_⟩
  rcases takes_buffer.mp run with ⟨held, rfl⟩ | ⟨unknown, rfl, rfl⟩
  · exact ⟨follows.reuse known data, alike_of_declared (follows.held member held) declared'⟩
  · have declared : Source.declareBytes data (s.nextName stem) ∈ (s.store data stem).statements :=
      List.mem_append_right _ (List.mem_singleton_self _)
    exact ⟨follows.store apart unknown known, alike_of_declared declared declared'⟩

theorem alike_kextTable (follows : Follows among s s') :
    Alike s s' (.identifier s.kextTable) (.identifier s'.kextTable) := by
  rw [follows.kextTable]
  exact alike_of_foreign (not_namesBytes_of_isPlain follows.plain)

end Follows

end CodecTables.Compile
