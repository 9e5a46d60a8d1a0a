import CodecTables.Proofs.Files.Characters
import CodecTables.Proofs.Files.Lookup

/-!
# Writing a file

A file can be written where a path leads to a file or to a free name (`exists_write_iff`). Then the
path leads to what was written, and nothing else has changed (`write_eq_ok`).
-/

namespace CodecTables.Files.Tree

variable {tree written : Tree} {directory place l : Location} {entry : Entry} {path : Path}

/-! ### One entry -/

/-- An entry that takes the place of another is found there, and all others stay. -/
theorem find?_map_set (entries : List (Location × Entry)) :
    (entries.map fun old => if old.1 == place then (place, entry) else old).find? (·.1 == l) =
      if l = place then (entries.find? (·.1 == place)).map fun _ => (place, entry)
      else entries.find? (·.1 == l) := by
  induction entries with
  | nil => simp
  | cons first rest ih =>
    rw [List.map_cons, List.find?_cons, List.find?_cons, List.find?_cons, ih]
    by_cases here : first.1 = place
    · by_cases same : l = place
      · simp [here, same]
      · have other : (place == l) = false := beq_eq_false_iff_ne.mpr (Ne.symm same)
        simp [here, same, other]
    · have other : (first.1 == place) = false := beq_eq_false_iff_ne.mpr here
      by_cases same : l = place
      · simp [same, other]
      · simp [same, other]

/-- Setting an entry changes what is looked up at its place only. -/
theorem lookup_set (named : place.names ≠ []) (l : Location) :
    (tree.set place entry).lookup l = if l = place then some entry else tree.lookup l := by
  unfold lookup
  by_cases base : l.names.isEmpty
  · have other : l ≠ place := by
      rintro rfl
      exact named (List.isEmpty_iff.mp base)
    rw [if_pos base, if_pos base, if_neg other]
  rw [if_neg base, if_neg base]
  unfold set
  split
  · next listed =>
    dsimp only
    rw [find?_map_set]
    by_cases same : l = place
    · obtain ⟨old, member, at_⟩ := List.any_eq_true.mp listed
      have found : (tree.entries.find? fun old => old.1 == place).isSome :=
        List.find?_isSome.mpr ⟨old, member, at_⟩
      obtain ⟨first, found⟩ := Option.isSome_iff_exists.mp found
      rw [if_pos same, if_pos same, found]
      rfl
    · rw [if_neg same, if_neg same]
  · next new =>
    dsimp only
    rw [List.find?_append]
    by_cases same : l = place
    · have none : tree.entries.find? (fun old => old.1 == l) = none := by
        rw [same]
        refine List.find?_eq_none.mpr fun old member at_ => new ?_
        exact List.any_eq_true.mpr ⟨old, member, at_⟩
      rw [if_pos same, none, same]
      simp
    · rw [if_neg same]
      simp [Ne.symm same]

/-! ### Following after a change -/

/-- What a path leads to stands there, unless it is a directory. -/
theorem lookup_of_follow {names : List String} {target : Target}
    (found : tree.follow directory names = .ok target)
    (other : ∀ place, target ≠ .directory place) :
    target.place.names ≠ [] ∧ tree.lookup target.place ≠ some .directory := by
  induction names generalizing directory with
  | nil =>
    cases found
    exact absurd rfl (other directory)
  | cons name rest ih =>
    rw [follow] at found
    have last (found : tree.step directory name = .ok target) :
        target.place.names ≠ [] ∧ tree.lookup target.place ≠ some .directory := by
      rcases step_cases found with ⟨_, up⟩ | child
      · exact absurd up (other _)
      · have same := congrArg Target.place child
        rw [Target.place_ofEntry] at same
        rw [same]
        refine ⟨List.concat_ne_nil name directory.names, fun stands => ?_⟩
        rw [stands] at child
        exact other _ child
    rcases step : tree.step directory name with problem | next | ⟨next, content⟩ | next
    · rw [step] at found
      cases found
    · rw [step] at found
      exact ih found
    · rw [step] at found
      cases rest with
      | nil =>
        cases found
        exact last step
      | cons => cases found
    · rw [step] at found
      cases rest with
      | nil =>
        cases found
        exact last step
      | cons => cases found

/-- After a file was put where a path leads, the path leads to the file. -/
theorem follow_set {names : List String} {target : Target} {content : List UInt8}
    (found : tree.follow directory names = .ok target)
    (other : ∀ place, target ≠ .directory place) :
    (tree.set target.place (.file content)).follow directory names =
      .ok (.file target.place content) := by
  obtain ⟨named, free⟩ := lookup_of_follow found other
  induction names generalizing directory with
  | nil =>
    cases found
    exact absurd rfl (other directory)
  | cons name rest ih =>
    rw [follow] at found ⊢
    have last (found : tree.step directory name = .ok target) :
        (tree.set target.place (.file content)).step directory name =
          .ok (.file target.place content) := by
      rcases step_cases found with ⟨_, up⟩ | child
      · exact absurd up (other _)
      have counts : name ≠ ".." := by
        rintro rfl
        rw [step, if_pos rfl] at found
        exact other _ (Except.ok.inj found).symm
      have same := congrArg Target.place child
      rw [Target.place_ofEntry] at same
      rw [step_of_step found counts, ← same, lookup_set named, if_pos rfl]
      rfl
    rcases step : tree.step directory name with problem | next | ⟨next, old⟩ | next
    · rw [step] at found
      cases found
    · rw [step] at found
      have still : (tree.set target.place (.file content)).step directory name =
          .ok (.directory next) := by
        by_cases up : name = ".."
        · subst up
          exact step
        rcases step_cases step with ⟨up', _⟩ | child
        · exact absurd up' up
        have same := congrArg Target.place child
        rw [Target.place_ofEntry] at same
        -- A directory on the way stands, and the file is put where none does.
        have apart : directory.child name ≠ target.place := by
          intro here
          rw [here] at child
          rcases stands : tree.lookup target.place with _ | old | _
          · rw [stands] at child
            cases child
          · rw [stands] at child
            cases child
          · exact free stands
        rw [step_of_step step up, lookup_set named, if_neg apart, ← child]
      rw [still]
      exact ih found
    · rw [step] at found
      cases rest with
      | nil =>
        cases found
        rw [last step]
        rfl
      | cons => cases found
    · rw [step] at found
      cases rest with
      | nil =>
        cases found
        rw [last step]
        rfl
      | cons => cases found

/-! ### Writing -/

/-- The place of the file that a path leads to, or of the file that it may become. -/
def filePlace? (tree : Tree) (path : Path) : Option Location :=
  match tree.resolve path with
  | .ok (.file place _) | .ok (.vacant place) => some place
  | _ => none

/-- A file can be written at a path that leads to a file or to a free name. -/
def Writable (tree : Tree) (path : Path) : Prop := (tree.filePlace? path).isSome

theorem exists_write_iff (content : List UInt8) :
    (∃ written, tree.write path content = .ok written) ↔ tree.Writable path := by
  unfold write Writable filePlace?
  rcases tree.resolve path with problem | place | ⟨place, old⟩ | place <;> simp

theorem write_ne_nulInPath (content : List UInt8) (absent : '\x00' ∉ path.text.toList) :
    tree.write path content ≠ .error .nulInPath := by
  have found := tree.resolve_ne_nulInPath absent
  unfold write
  split
  · next problem failed =>
    rw [failed] at found
    exact fun same => found (congrArg Except.error (Except.error.inj same))
  · exact nofun
  · exact nofun
  · exact nofun

/-- What was written is read at the path, and nothing else has changed. -/
theorem write_eq_ok {content : List UInt8} (wrote : tree.write path content = .ok written) :
    ∃ place, tree.filePlace? path = some place ∧ written.read path = .ok content ∧
      ∀ l, l ≠ place → written.lookup l = tree.lookup l := by
  have main (target : Target) (found : tree.resolve path = .ok target)
      (other : ∀ place, target ≠ .directory place) :
      (tree.set target.place (.file content)).read path = .ok content ∧
        ∀ l, l ≠ target.place →
          (tree.set target.place (.file content)).lookup l = tree.lookup l := by
    have followed := follow_of_resolve found
    have resolved : (tree.set target.place (.file content)).resolve path =
        .ok (.file target.place content) := by
      rw [← follow_set followed other]
      unfold resolve at found ⊢
      split at found
      · cases found
      · next free =>
        split at found
        · cases found
        · next short => rw [if_neg free, if_neg short]
    refine ⟨?_, fun l apart => ?_⟩
    · unfold read
      rw [resolved]
    · rw [lookup_set (lookup_of_follow followed other).1, if_neg apart]
  unfold write at wrote
  unfold filePlace?
  rcases found : tree.resolve path with problem | place | ⟨place, old⟩ | place
  · rw [found] at wrote
    cases wrote
  · rw [found] at wrote
    cases wrote
  · rw [found] at wrote
    cases wrote
    exact ⟨place, rfl, main _ found nofun⟩
  · rw [found] at wrote
    cases wrote
    exact ⟨place, rfl, main _ found nofun⟩

end CodecTables.Files.Tree
