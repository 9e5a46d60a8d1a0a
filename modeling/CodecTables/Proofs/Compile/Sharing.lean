import CodecTables.Proofs.Compile.Simulation

/-!
# Shared arrays

After any entities, each byte string that they hold is in one array, equal byte strings are in the
same one, and there are no other arrays of bytes (`Shares`). So a source in which arrays are shared
is the one in which every use has a fresh array, up to the names of these arrays.
-/

namespace CodecTables.Compile

open Data.Sha256 (hexDigest)
open Files (Path Tree)
open Source (Node)

/-- The expressions for entities that are compiled one after the other say what these are. -/
inductive Describes (reading : Tree → Reading) : Path → List Visit → List (List Node) → Prop
  | nil (directory : Path) : Describes reading directory [] []
  | cons {directory : Path} {visit : Visit} {nodes : List Node} {rest : List Visit}
      {results : List (List Node)} :
      (reading visit.files).Means directory visit.entity nodes →
      Describes reading (visit.entity.directory directory) rest results →
      Describes reading directory (visit :: rest) (nodes :: results)

theorem Describes.mono {reading reading' : Tree → Reading} {directory : Path} {list : List Visit}
    {results : List (List Node)} (within : ∀ files, (reading files).Within (reading' files))
    (describes : Describes reading directory list results) :
    Describes reading' directory list results := by
  induction describes with
  | nil directory => exact .nil directory
  | cons means _ ih => exact .cons (means.mono (within _)) ih

/-- What an entity is given as is still read so after the entities that follow. -/
theorem describes_visits {among : List UInt8 → Prop} {list : List Visit}
    {results : List (List Node)} {s t : State} (plain : NameSupply.isPlain s.kextTable = true)
    (members : ∀ data ∈ bytesOfVisits s.directory list, among data)
    (run : Takes (visits buffer list) s results t) :
    Describes (fun files => (t.reading among files).loose) s.directory list results := by
  have steps := takes_mapM.mp run
  clear run
  induction steps with
  | nil s => exact .nil _
  | @cons s u t visit nodes rest results first later ih =>
    obtain ⟨course, means⟩ := course_entity plain
      (fun data member => members data (List.mem_append_left _ member)) first
    have same : u.kextTable = s.kextTable := course.grows.kextTable
    have here := directory_entityWith directory_buffer first
    have grown : Extends u t := (frame_extends.mapM rest fun visit _ =>
      extends_entityWith extends_buffer visit.files visit.entity).of_takes (takes_mapM.mpr later)
    have loosened : (u.reading among visit.files).Within (u.reading among visit.files).loose :=
      { source := id, refers := id, place := fun _ => trivial, kextTable := rfl, files := rfl }
    rw [same, here] at ih
    exact .cons ((means.mono loosened).mono grown.within)
      (ih plain fun data member => members data (List.mem_append_right _ member))

/-- The used byte strings are in arrays of their own, one for each. -/
structure Shares (used : List (List UInt8)) (source : List Node) (naming : List UInt8 → String) :
    Prop where
  declared : ∀ data ∈ used,
    Source.declarations source (naming data) = [Source.declareBytes data (naming data)]
  same : ∀ data ∈ used, ∀ data' ∈ used, naming data = naming data' ↔ data = data'
  count : (Source.byteArrays source).length = used.dedup.length

/-- How rows are read if byte strings are named. -/
def namedReading (source : List Node) (naming : List UInt8 → String) (files : Tree) : Reading where
  source := source
  refers data node := node = .identifier (naming data)
  place _ _ := True
  kextTable := defaultKextTable
  files := files

section Shares

variable {used : List (List UInt8)} {s : State} {held : List (List UInt8 × String)}
  (apart : ∀ data ∈ used, ∀ data' ∈ used, hexDigest data = hexDigest data' → data = data')
  (holds : Holds s held) (covers : Covers [] held used)

include apart holds covers

/-- The digests of used byte strings lead to their arrays. -/
theorem exists_held {data : List UInt8} (member : data ∈ used) :
    ∃ name, s.buffers.lookup (hexDigest data) = some name ∧ (data, name) ∈ held := by
  obtain ⟨array, inside, digests⟩ := covers.covered data member
  have known : hexDigest data ∈ s.buffers.map Prod.fst := by
    rw [holds.buffers, List.map_map, ← digests]
    exact List.mem_map.mpr ⟨array, inside, rfl⟩
  cases found : s.buffers.lookup (hexDigest data) with
  | none =>
    obtain ⟨entry, listed, same⟩ := List.mem_map.mp known
    have differs := List.lookup_eq_none_iff.mp found entry listed
    simp [same] at differs
  | some name =>
    obtain ⟨⟨data', name'⟩, inside', digests', rfl⟩ := holds.lookup found
    have same : data' = data := apart _ (covers.stored _ inside') _ member digests'
    rw [same] at inside'
    exact ⟨name', rfl, inside'⟩

/-- There are as many arrays as there are different byte strings. -/
theorem length_byteArrays : (Source.byteArrays s.statements).length = used.dedup.length := by
  have distinct : (held.map Prod.fst).Nodup := by
    apply List.Nodup.of_map hexDigest
    rw [List.map_map]
    exact holds.apart
  have same : List.Perm (held.map Prod.fst) used.dedup := by
    refine (List.perm_ext_iff_of_nodup distinct used.nodup_dedup).mpr fun data => ?_
    rw [List.mem_dedup]
    constructor
    · intro listed
      obtain ⟨array, inside, rfl⟩ := List.mem_map.mp listed
      exact covers.stored array inside
    · intro member
      obtain ⟨name, _, inside⟩ := exists_held apart holds covers member
      exact List.mem_map.mpr ⟨_, inside, rfl⟩
  rw [holds.arrays, List.length_map, ← same.length_eq, List.length_map]

/-- The names that are known for digests are those of the arrays that share their bytes. -/
theorem shares_of_holds (named : Named s) (numbered : Numbered s.statements s.names) :
    Shares used s.statements fun data => (s.buffers.lookup (hexDigest data)).getD "" := by
  have declared : ∀ data ∈ used,
      Source.declarations s.statements ((s.buffers.lookup (hexDigest data)).getD "") =
        [Source.declareBytes data ((s.buffers.lookup (hexDigest data)).getD "")] := by
    intro data member
    obtain ⟨name, found, inside⟩ := exists_held apart holds covers member
    rw [found, Option.getD_some]
    have listed : Source.declareBytes data name ∈ Source.byteArrays s.statements := by
      rw [holds.arrays]
      exact List.mem_map.mpr ⟨_, inside, rfl⟩
    obtain ⟨data', stem, known, index, _, same⟩ := numbered.earlier _ listed
    have given : NameSupply.isPlain name = false := by
      rw [(Source.declareBytes_inj.mp same).2]
      exact NameSupply.not_isPlain_name stem index
    exact named.declarations (List.mem_filter.mp listed).1 rfl given
  refine ⟨declared, fun data member data' member' => ⟨fun same => ?_, fun same => by rw [same]⟩,
    length_byteArrays apart holds covers⟩
  have both := (declared data member).symm
  rw [same, declared data' member', List.cons.injEq] at both
  exact (Source.declareBytes_inj.mp both.1).1

end Shares

/-- After any entities that are compiled from the beginning, all references to a byte string go by
one name, which is declared once, for an array of these bytes; names are the same if the bytes are,
and there are no other arrays of bytes. The entities can be compiled as well with a fresh array for
every use, and nothing is different then but which arrays there are and what their names are. -/
theorem visits_share {types : TypeTables} {names : NameSupply} {list : List Visit}
    {results : List (List Node)} {s : State}
    (run : Takes (visits buffer list) (.start [] types names) results s)
    (apart : ∀ data ∈ bytesOfVisits .here list, ∀ data' ∈ bytesOfVisits .here list,
      hexDigest data = hexDigest data' → data = data') :
    (∃ naming, Shares (bytesOfVisits .here list) s.statements naming ∧
      Describes (namedReading s.statements naming) .here list results) ∧
    ∃ results' s', Takes (visits freshBuffer list) (.start [] types names) results' s' ∧
      results.map (List.map (Node.inline (Source.bytesNamed s.statements))) =
        results'.map (List.map (Node.inline (Source.bytesNamed s'.statements))) ∧
      (Source.otherStatements s.statements).map (Node.inline (Source.bytesNamed s.statements)) =
        (Source.otherStatements s'.statements).map
          (Node.inline (Source.bytesNamed s'.statements)) ∧
      s'.types = s.types ∧ s'.kexts = s.kexts ∧ s'.directory = s.directory ∧ s'.log = s.log := by
  have courses : Courses (· ∈ bytesOfVisits .here list) (.start [] types names) _ _ s :=
    courses_visits NameSupply.isPlain_kextTable (fun data member => member) run
  have named : Named s := (Named.start rfl types names).courses courses
  obtain ⟨held, holds, covers⟩ := (Holds.start rfl types names).courses courses
  have begins : At .here (State.start [] types names) := rfl
  obtain ⟨results', s', run', follows, alikes⟩ : ∃ results' s', _ ∧
      Follows (· ∈ bytesOfVisits .here list) s s' ∧ _ :=
    simulates_visits apart .here list begins (fun data member => member) (.start types names) run
  refine ⟨⟨_, shares_of_holds apart holds covers named follows.shared, ?_⟩, results', s', run', ?_,
    ?_, follows.types, follows.kexts, follows.directory, follows.log⟩
  · have describes : Describes
        (fun files => (s.reading (· ∈ bytesOfVisits .here list) files).loose) .here list results :=
      describes_visits NameSupply.isPlain_kextTable (fun data member => member) run
    -- The name that is known for the digest of some bytes is the one that the naming gives.
    refine describes.mono fun files => ?_
    constructor
    · exact id
    · rintro data node ⟨_, name, found, rfl⟩
      change _ = Node.identifier ((s.buffers.lookup (hexDigest data)).getD "")
      rw [found, Option.getD_some]
    · exact fun _ => trivial
    · exact courses.grows.kextTable.symm
    · rfl
  · clear run run'
    induction alikes with
    | nil => rfl
    | cons first _ ih =>
      rw [List.map_cons, List.map_cons,
        map_inline_of_alike first follows.shared.explains follows.fresh.explains, ih]
  · exact map_inline_of_alike follows.others follows.shared.explains follows.fresh.explains

/-- A kext table, a patch of its kext and a codec file, with one byte everywhere. -/
def oneByte : List Visit :=
  let files : Tree := ⟨[(⟨.above 0, ["layout1.xml"]⟩, .file [0])]⟩
  [⟨files, .kextTable (.ofDictionary
      [(.string "AppleHDA", ⟨"com.apple.driver.AppleHDA", [], false, false⟩)])⟩,
    ⟨files, .patch (.idle "AppleHDA")⟩, ⟨files, .codecFile ⟨1, "layout1.xml", 0, 0⟩⟩]

/-- A patch and a file of the same byte share one array. -/
theorem visits_share_oneByte : ∃ results s,
    Takes (visits buffer oneByte) (.start [] (.start none) .empty) results s ∧
      (Source.byteArrays s.statements).length = 1 := by
  have goes : stopOf (visits buffer oneByte) (.start [] (.start none) .empty) = none := by
    decide +kernel
  have used : bytesOfVisits .here oneByte = [[0], [0], [0]] := by decide +kernel
  obtain ⟨results, s, run⟩ := exists_takes_of_stopOf goes
  have apart : ∀ data ∈ bytesOfVisits .here oneByte, ∀ data' ∈ bytesOfVisits .here oneByte,
      hexDigest data = hexDigest data' → data = data' := by
    rw [used]
    simp
  obtain ⟨⟨naming, shares, _⟩, _⟩ := visits_share run apart
  refine ⟨results, s, run, shares.count.trans ?_⟩
  rw [used]
  rfl

end CodecTables.Compile
