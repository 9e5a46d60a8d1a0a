import CodecTables.Proofs.Compile.Frame
import CodecTables.Proofs.Compile.Names
import CodecTables.Proofs.Source.Inline
import Mathlib.Data.List.Forall2

/-!
# Arrays that are not shared

Bytes can be stored in a fresh array for every use, without a look at the arrays that are there. Two
expressions in two sources are alike if they are the same once the names of arrays of bytes are
replaced by the bytes (`Alike`), and stay so when the sources grow. In a source whose arrays of
bytes have names of their own, these names stand for their bytes (`Numbered.explains`).
-/

namespace CodecTables.Compile

open Data.Sha256 (hexDigest)
open Source (Meaning Node)

/-- Stores bytes in a fresh array, whatever is in the source already. -/
def freshBuffer : Storage := fun data stem => do
  let name ← fresh stem
  emit (Source.declareBytes data name)
  return name

/-- Without sharing, bytes always get an array under the next name. -/
theorem takes_freshBuffer {data : List UInt8} {stem name : String} {s t : State} :
    Takes (freshBuffer data stem) s name t ↔
      name = s.nextName stem ∧ t = (s.mint stem).add (Source.declareBytes data name) := by
  unfold freshBuffer
  simp only [takes_bind, takes_fresh, takes_emit, takes_pure]
  constructor
  · rintro ⟨_, _, ⟨rfl, rfl⟩, _, _, rfl, rfl, rfl⟩
    exact ⟨rfl, rfl⟩
  · rintro ⟨rfl, rfl⟩
    exact ⟨_, _, ⟨rfl, rfl⟩, (), _, rfl, rfl, rfl⟩

/-- Without sharing, storing bytes only adds to the source. -/
theorem extends_freshBuffer (data : List UInt8) (stem : String) :
    Keeps Extends (freshBuffer data stem) := by
  intro s
  rw [show outcome (freshBuffer data stem) s = _ from takes_freshBuffer.mpr ⟨rfl, rfl⟩]
  exact (Extends.mint s stem).trans (.add _ _)

/-! ### Names of arrays of bytes -/

/-- The text may name an array of bytes. -/
def NamesBytes (name : String) : Prop :=
  ∃ stem ∈ byteStems, ∃ index, name = NameSupply.name stem index

theorem not_namesBytes_of_isPlain {name : String} (plain : NameSupply.isPlain name = true) :
    ¬ NamesBytes name := by
  rintro ⟨stem, _, index, same⟩
  exact NameSupply.ne_name_of_isPlain plain stem index same

/-- A name for another array is not of an array of bytes. -/
theorem not_namesBytes_name {stem : String} (member : stem ∈ otherStems) (index : Nat) :
    ¬ NamesBytes (NameSupply.name stem index) := by
  rintro ⟨stem', known, index', same⟩
  obtain ⟨rfl, _⟩ := (NameSupply.name_inj (isPlain_of_mem_otherStems member)
    (isPlain_of_mem_byteStems known)).mp same
  exact notMem_byteStems member known

/-- The arrays of bytes of a source were given their names before, each another one. -/
structure Numbered (source : List Node) (names : NameSupply) : Prop where
  earlier : ∀ statement ∈ Source.byteArrays source, ∃ data, ∃ stem ∈ byteStems,
    ∃ index < names.index stem, statement = Source.declareBytes data (NameSupply.name stem index)
  once : ∀ {data data' name}, Source.declareBytes data name ∈ source →
    Source.declareBytes data' name ∈ source → data = data'

namespace Numbered

variable {source : List Node} {names : NameSupply}

theorem nil (names : NameSupply) : Numbered [] names :=
  ⟨nofun, nofun⟩

/-- A statement that is no array of bytes. -/
theorem add (numbered : Numbered source names) {statement : Node}
    (other : statement.isByteArray = false) : Numbered (source ++ [statement]) names := by
  have old {data : List UInt8} {name : String}
      (member : Source.declareBytes data name ∈ source ++ [statement]) :
      Source.declareBytes data name ∈ source := by
    rcases List.mem_append.mp member with old | new
    · exact old
    · rw [← List.mem_singleton.mp new] at other
      exact nomatch other
  constructor
  · rw [Source.byteArrays_append, Source.byteArrays_singleton_of_not other, List.append_nil]
    exact numbered.earlier
  · exact fun first second => numbered.once (old first) (old second)

theorem advance (numbered : Numbered source names) (stem : String) :
    Numbered source (names.advance stem) where
  earlier statement member := by
    obtain ⟨data, stem', known, index, below, same⟩ := numbered.earlier statement member
    have still : names.index stem' ≤ (names.advance stem).index stem' := by
      rw [NameSupply.index_advance]
      exact Nat.le_add_right _ _
    exact ⟨data, stem', known, index, Nat.lt_of_lt_of_le below still, same⟩
  once := numbered.once

/-- The next name of a stem is not declared yet. -/
theorem next_notMem (numbered : Numbered source names) {stem : String}
    (known : stem ∈ byteStems) (data : List UInt8) :
    Source.declareBytes data (NameSupply.name stem (names.index stem)) ∉ source := by
  intro declared
  obtain ⟨data', stem', known', index, below, same⟩ :=
    numbered.earlier _ (List.mem_filter.mpr ⟨declared, rfl⟩)
  obtain ⟨rfl, rfl⟩ := (NameSupply.name_inj (isPlain_of_mem_byteStems known)
    (isPlain_of_mem_byteStems known')).mp (Source.declareBytes_inj.mp same).2
  exact Nat.lt_irrefl _ below

/-- An array of bytes under the next name of a stem. -/
theorem declare (numbered : Numbered source names) {stem : String} (known : stem ∈ byteStems)
    (data : List UInt8) :
    Numbered
      (source ++ [Source.declareBytes data (NameSupply.name stem (names.index stem))])
      (names.advance stem) := by
  constructor
  · intro statement member
    rw [Source.byteArrays_append] at member
    rcases List.mem_append.mp member with old | new
    · exact (numbered.advance stem).earlier statement old
    · have same := List.mem_singleton.mp (List.mem_filter.mp new).1
      refine ⟨data, stem, known, names.index stem, ?_, same⟩
      rw [NameSupply.index_advance, if_pos rfl]
      exact Nat.lt_succ_self _
  · intro data₁ data₂ name first second
    rcases List.mem_append.mp first with old | new
    · rcases List.mem_append.mp second with old' | new'
      · exact numbered.once old old'
      · rw [(Source.declareBytes_inj.mp (List.mem_singleton.mp new')).2] at old
        exact absurd old (numbered.next_notMem known _)
    · obtain ⟨rfl, rfl⟩ := Source.declareBytes_inj.mp (List.mem_singleton.mp new)
      rcases List.mem_append.mp second with old' | new'
      · exact absurd old' (numbered.next_notMem known _)
      · exact (Source.declareBytes_inj.mp (List.mem_singleton.mp new')).1.symm

end Numbered

/-! ### Expressions that are alike -/

/-- The names of arrays of bytes stand for the bytes, and other names for nothing. -/
structure Explains (source : List Node) (meaning : Meaning) : Prop where
  arrays : ∀ {data name}, Source.declareBytes data name ∈ source →
    meaning name = some (Source.bytesOf data)
  others : ∀ {name}, ¬ NamesBytes name → meaning name = none

/-- What explains a source explains each part of it. -/
theorem Explains.of_subset {source source' : List Node} {meaning : Meaning}
    (explains : Explains source' meaning) (within : source ⊆ source') :
    Explains source meaning where
  arrays declared := explains.arrays (within declared)
  others := explains.others

/-- In a source whose arrays of bytes have names of their own, these names stand for their bytes. -/
theorem Numbered.explains {source : List Node} {names : NameSupply}
    (numbered : Numbered source names) : Explains source (Source.bytesNamed source) := by
  constructor
  · intro data name declared
    obtain ⟨value, found⟩ := Option.isSome_iff_exists.mp (Source.isSome_bytesNamed declared)
    obtain ⟨statement, listed, named, valued⟩ := Source.exists_of_bytesNamed found
    obtain ⟨data', stem, _, index, _, rfl⟩ := numbered.earlier statement listed
    have same : NameSupply.name stem index = name := Option.some.inj named
    rw [same] at listed
    rw [numbered.once declared (List.mem_filter.mp listed).1, found]
    exact valued.symm
  · intro name foreign
    cases found : Source.bytesNamed source name with
    | none => rfl
    | some value =>
      obtain ⟨statement, listed, named, _⟩ := Source.exists_of_bytesNamed found
      obtain ⟨data, stem, known, index, _, rfl⟩ := numbered.earlier statement listed
      exact absurd ⟨stem, known, index, (Option.some.inj named).symm⟩ foreign

/-- Once the names of arrays of bytes are replaced by the bytes, each by those in its own source,
the expressions are the same. -/
def Alike (s s' : State) (node node' : Node) : Prop :=
  ∀ ⦃meaning meaning'⦄, Explains s.statements meaning → Explains s'.statements meaning' →
    node.inline meaning = node'.inline meaning'

section Alike

variable {s s' t t' : State}

theorem Alike.mono {node node' : Node} (alike : Alike s s' node node') (grown : Extends s t)
    (grown' : Extends s' t') : Alike t t' node node' :=
  fun _ _ explains explains' => alike (explains.of_subset grown.statements.subset)
    (explains'.of_subset grown'.statements.subset)

theorem forall₂_alike_mono {nodes nodes' : List Node}
    (each : List.Forall₂ (Alike s s') nodes nodes') (grown : Extends s t) (grown' : Extends s' t') :
    List.Forall₂ (Alike t t') nodes nodes' :=
  each.imp fun _ _ alike => alike.mono grown grown'

/-- An expression without names is like itself. -/
theorem alike_of_closed {node : Node} (closed : ∀ meaning, node.inline meaning = node) :
    Alike s s' node node := by
  intro meaning meaning' _ _
  rw [closed, closed]

/-- A name that is not of an array of bytes is like itself. -/
theorem alike_of_foreign {name : String} (foreign : ¬ NamesBytes name) :
    Alike s s' (.identifier name) (.identifier name) := by
  intro meaning meaning' explains explains'
  rw [Node.inline_of_none (explains.others foreign), Node.inline_of_none (explains'.others foreign)]

/-- Names of arrays of the same bytes are alike. -/
theorem alike_of_declared {data : List UInt8} {name name' : String}
    (declared : Source.declareBytes data name ∈ s.statements)
    (declared' : Source.declareBytes data name' ∈ s'.statements) :
    Alike s s' (.identifier name) (.identifier name') := by
  intro meaning meaning' explains explains'
  rw [Node.inline_identifier, Node.inline_identifier, explains.arrays declared,
    explains'.arrays declared', Option.getD_some, Option.getD_some]

/-- Lists of expressions that are alike are the same once names are replaced. -/
theorem map_inline_of_alike {nodes nodes' : List Node} {meaning meaning' : Meaning}
    (each : List.Forall₂ (Alike s s') nodes nodes') (explains : Explains s.statements meaning)
    (explains' : Explains s'.statements meaning') :
    nodes.map (Node.inline meaning) = nodes'.map (Node.inline meaning') := by
  induction each with
  | nil => rfl
  | cons first _ ih => rw [List.map_cons, List.map_cons, first explains explains', ih]

/-- Literals are alike if their elements are. -/
theorem alike_literal {nodes nodes' : List Node} (each : List.Forall₂ (Alike s s') nodes nodes') :
    Alike s s' (.literal nodes) (.literal nodes') := by
  intro meaning meaning' explains explains'
  rw [Node.inline_literal, Node.inline_literal, map_inline_of_alike each explains explains']

/-- Assignments are alike if their values are. -/
theorem alike_assign {value value' : Node} (alike : Alike s s' value value') (declarator : Node) :
    Alike s s' (.assign declarator value) (.assign declarator value') := by
  intro meaning meaning' explains explains'
  rw [Node.inline_assign, Node.inline_assign, alike explains explains']

/-- Expressions without names are like themselves, element by element. -/
theorem forall₂_alike_map {α : Type} {element : α → Node}
    (closed : ∀ a meaning, (element a).inline meaning = element a) (list : List α) :
    List.Forall₂ (Alike s s') (list.map element) (list.map element) := by
  induction list with
  | nil => exact .nil
  | cons a rest ih => exact .cons (alike_of_closed (closed a)) ih

end Alike

end CodecTables.Compile
