import CodecTables.Files.Tree

/-!
# Where paths lead

Where a path leads depends on the places that it passes only (`follow_congr`). A path that passes
none of the given places does not come to what stands below them either, and so is not led astray by
it (`resolve_eq_of_avoids`). The names in a directory are those under which something stands in it
(`mem_namesIn`), so that trees of the same entries list the same names, in whatever order
(`namesIn_perm`).
-/

namespace CodecTables.Files

/-- What is left after duplicates are erased has no duplicates. -/
theorem nodup_eraseDups {α : Type} [BEq α] [LawfulBEq α] (as : List α) : as.eraseDups.Nodup := by
  induction length : as.length using Nat.strongRecOn generalizing as with
  | ind n ih =>
    cases as with
    | nil => exact List.nodup_nil
    | cons a as =>
      have shorter : (as.filter fun b => !b == a).length < n := by
        rw [← length]
        exact Nat.lt_succ_of_le (List.length_filter_le _ _)
      rw [List.eraseDups_cons]
      refine List.nodup_cons.mpr ⟨fun member => ?_, ih _ shorter _ rfl⟩
      have other := (List.mem_filter.mp (List.mem_eraseDups.mp member)).2
      simp at other

namespace Target

/-- The place of what a path leads to. -/
def place : Target → Location
  | .directory place | .file place _ | .vacant place => place

/-- What a name leads to where the given entry stands, or none. -/
def ofEntry (place : Location) : Option Entry → Target
  | none => .vacant place
  | some .directory => .directory place
  | some (.file content) => .file place content

theorem place_ofEntry (place : Location) (entry : Option Entry) :
    (ofEntry place entry).place = place := by
  rcases entry with _ | content | _ <;> rfl

end Target

namespace Location

/-- The place is the other one, or stands below it. -/
def Within (l top : Location) : Prop := l.base = top.base ∧ top.names <+: l.names

/-- The place that a path starts from is not below any name. -/
theorem not_within_start {top : Location} (named : top.names ≠ []) (path : Path) :
    ¬ (start path).Within top :=
  fun within => named (List.prefix_nil.mp within.2)

theorem not_within_parent {l top : Location} (named : top.names ≠ []) (outside : ¬ l.Within top) :
    ¬ l.parent.Within top := by
  rcases l with ⟨levels | _, _ | ⟨name, rest⟩⟩
  · exact fun within => named (List.prefix_nil.mp within.2)
  · exact fun within => outside ⟨within.1, within.2.trans (List.dropLast_prefix _)⟩
  · exact outside
  · exact fun within => outside ⟨within.1, within.2.trans (List.dropLast_prefix _)⟩

/-- Going down leads below a place only through this place. -/
theorem not_within_child {l top : Location} {name : String} (outside : ¬ l.Within top)
    (other : l.child name ≠ top) : ¬ (l.child name).Within top := by
  rintro ⟨base, names⟩
  rcases List.prefix_concat_iff.mp names with same | shorter
  · refine other ?_
    rw [child, ← same, show l.base = top.base from base]
  · exact outside ⟨base, shorter⟩

theorem length_parent_le (l : Location) : l.parent.names.length ≤ l.names.length := by
  rcases l with ⟨levels | _, _ | ⟨name, rest⟩⟩
  · exact Nat.le_refl _
  · exact (List.dropLast_prefix _).length_le
  · exact Nat.le_refl _
  · exact (List.dropLast_prefix _).length_le

theorem length_child (l : Location) (name : String) :
    (l.child name).names.length = l.names.length + 1 := List.length_append

theorem parent_child (l : Location) (name : String) : (l.child name).parent = l := by
  rcases l with ⟨base, names⟩
  have last : (names ++ [name]).dropLast = names := List.dropLast_concat
  cases names with
  | nil => cases base <;> rfl
  | cons first rest =>
    rw [List.cons_append] at last
    unfold child parent
    dsimp only
    rw [List.cons_append]
    cases base <;> exact congrArg _ last

theorem child_injective {l : Location} {name other : String} (same : l.child name = l.child other) :
    name = other := by
  have names : l.names ++ [name] = l.names ++ [other] := congrArg Location.names same
  exact List.singleton_inj.mp (List.append_cancel_left names)

end Location

namespace Tree

variable {tree other : Tree} {directory place : Location} {name : String} {path : Path}

/-! ### Following -/

/-- A name that is not too long leads to what stands under it. -/
theorem step_child (counts : name ≠ "..") (short : name.utf8ByteSize ≤ maxName) :
    tree.step directory name =
      .ok (.ofEntry (directory.child name) (tree.lookup (directory.child name))) := by
  unfold step
  rw [if_neg counts, if_neg (Nat.not_lt.mpr short)]
  dsimp only
  rcases tree.lookup (directory.child name) with _ | content | _ <;> rfl

/-- A name leads up, or to what stands under it. -/
theorem step_cases {target : Target} (found : tree.step directory name = .ok target) :
    (name = ".." ∧ target = .directory directory.parent) ∨
      target = .ofEntry (directory.child name) (tree.lookup (directory.child name)) := by
  by_cases up : name = ".."
  · rw [step, if_pos up] at found
    exact .inl ⟨up, (Except.ok.inj found).symm⟩
  by_cases long : name.utf8ByteSize > maxName
  · rw [step, if_neg up, if_pos long] at found
    cases found
  rw [step_child up (Nat.not_lt.mp long)] at found
  exact .inr (Except.ok.inj found).symm

/-- A name that leads somewhere is looked up in every tree. -/
theorem step_of_step {target : Target} (found : tree.step directory name = .ok target)
    (counts : name ≠ "..") : other.step directory name =
      .ok (.ofEntry (directory.child name) (other.lookup (directory.child name))) := by
  refine step_child counts (Nat.not_lt.mp fun long => ?_)
  rw [step, if_neg counts, if_pos long] at found
  cases found

/-- The places that are passed on the way along a chain of names. -/
def passed (tree : Tree) (directory : Location) : List String → List Location
  | [] => []
  | name :: rest =>
    match tree.step directory name with
    | .error _ => []
    | .ok (.directory place) => place :: tree.passed place rest
    | .ok target => [target.place]

/-- The places that a path passes. -/
def passes (tree : Tree) (path : Path) : List Location := tree.passed (.start path) path.names

/-- A step depends only on what stands where it leads. -/
theorem step_congr
    (same : ∀ target, tree.step directory name = .ok target →
      other.lookup target.place = tree.lookup target.place) :
    other.step directory name = tree.step directory name := by
  by_cases up : name = ".."
  · unfold step
    rw [if_pos up, if_pos up]
  by_cases long : name.utf8ByteSize > maxName
  · unfold step
    rw [if_neg up, if_neg up, if_pos long, if_pos long]
  have agree := same _ (step_child up (Nat.not_lt.mp long))
  rw [Target.place_ofEntry] at agree
  rw [step_child up (Nat.not_lt.mp long), step_child up (Nat.not_lt.mp long), agree]

/-- Trees with the same entries at the places that a chain of names passes lead it to the same. -/
theorem follow_congr {names : List String}
    (same : ∀ place ∈ tree.passed directory names, other.lookup place = tree.lookup place) :
    other.follow directory names = tree.follow directory names := by
  induction names generalizing directory with
  | nil => rfl
  | cons name rest ih =>
    have first : other.step directory name = tree.step directory name := by
      refine step_congr fun target found => same target.place ?_
      rw [passed, found]
      cases target <;> exact List.mem_cons_self
    rw [follow, follow, first]
    rcases found : tree.step directory name with problem | next | ⟨next, content⟩ | next
    · rfl
    · refine ih fun place member => same place ?_
      rw [passed, found]
      exact List.mem_cons_of_mem _ member
    · rfl
    · rfl

/-- Where a path leads depends only on the places that it passes. -/
theorem resolve_congr (same : ∀ place ∈ tree.passes path, other.lookup place = tree.lookup place) :
    other.resolve path = tree.resolve path := by
  unfold resolve
  rw [follow_congr same]

/-- What is read depends only on where the path leads. -/
theorem read_congr (same : other.resolve path = tree.resolve path) :
    other.read path = tree.read path := by
  unfold read
  rw [same]

/-- Whether a path leads to a directory depends only on where it leads. -/
theorem isDirectory_congr (same : other.resolve path = tree.resolve path) :
    other.isDirectory path = tree.isDirectory path := by
  unfold isDirectory
  rw [same]

/-- Only a path that is too long cannot be looked at. -/
theorem eq_nameTooLong_of_isDirectory {problem : Problem}
    (failed : tree.isDirectory path = .error problem) : problem = .nameTooLong := by
  unfold isDirectory at failed
  split at failed
  · cases failed
  · exact (Except.error.inj failed).symm
  · cases failed

/-- A path that is a directory leads to one. -/
theorem resolve_of_isDirectory (stands : tree.isDirectory path = .ok true) :
    ∃ place, tree.resolve path = .ok (.directory place) := by
  unfold isDirectory at stands
  split at stands
  · next place resolved => exact ⟨place, resolved⟩
  · cases stands
  · cases stands

/-! ### Avoiding -/

/-- A chain of names that does not pass a place does not come to what stands below it. -/
theorem not_within_of_mem_passed {names : List String} {top : Location} (named : top.names ≠ [])
    (outside : ¬ directory.Within top) (avoids : top ∉ tree.passed directory names) :
    ∀ place ∈ tree.passed directory names, ¬ place.Within top := by
  induction names generalizing directory with
  | nil => exact fun place member => absurd member List.not_mem_nil
  | cons name rest ih =>
    have first (target : Target) (found : tree.step directory name = .ok target)
        (other : target.place ≠ top) : ¬ target.place.Within top := by
      rcases step_cases found with ⟨_, rfl⟩ | rfl
      · exact Location.not_within_parent named outside
      · rw [Target.place_ofEntry] at other ⊢
        exact Location.not_within_child outside other
    intro place member
    rw [passed] at avoids member
    rcases found : tree.step directory name with problem | next | ⟨next, content⟩ | next
    · rw [found] at member
      exact absurd member List.not_mem_nil
    · rw [found] at avoids member
      obtain ⟨other, later⟩ := List.ne_and_not_mem_of_not_mem_cons avoids
      have below := first _ found (Ne.symm other)
      rcases List.mem_cons.mp member with rfl | further
      · exact below
      · exact ih below later place further
    · rw [found] at avoids member
      rw [List.mem_singleton.mp member]
      exact first _ found fun same => avoids (List.mem_singleton.mpr same.symm)
    · rw [found] at avoids member
      rw [List.mem_singleton.mp member]
      exact first _ found fun same => avoids (List.mem_singleton.mpr same.symm)

/-- A path that passes none of some places leads to the same in any tree that differs only there and
below. -/
theorem resolve_eq_of_avoids (tops : List Location) (named : ∀ top ∈ tops, top.names ≠ [])
    (same : ∀ place, (∀ top ∈ tops, ¬ place.Within top) → other.lookup place = tree.lookup place)
    (avoids : ∀ top ∈ tops, top ∉ tree.passes path) : other.resolve path = tree.resolve path := by
  refine resolve_congr fun place member => same place fun top inside => ?_
  exact not_within_of_mem_passed (named top inside)
    (Location.not_within_start (named top inside) path) (avoids top inside) place member

/-! ### Paths in a directory -/

/-- After a chain of names that leads to a directory, the rest is followed from there. -/
theorem follow_append {names : List String}
    (found : tree.follow directory names = .ok (.directory place)) (rest : List String) :
    tree.follow directory (names ++ rest) = tree.follow place rest ∧
      tree.passed directory (names ++ rest) =
        tree.passed directory names ++ tree.passed place rest := by
  induction names generalizing directory with
  | nil =>
    cases found
    exact ⟨rfl, rfl⟩
  | cons first others ih =>
    rw [follow] at found
    rw [List.cons_append, follow, passed, passed]
    rcases step : tree.step directory first with problem | next | ⟨next, content⟩ | next
    · rw [step] at found
      cases found
    · rw [step] at found
      obtain ⟨followed, listed⟩ := ih found
      exact ⟨followed, congrArg (next :: ·) listed⟩
    · rw [step] at found
      cases others <;> cases found
    · rw [step] at found
      cases others <;> cases found

theorem follow_singleton (name : String) :
    tree.follow directory [name] = tree.step directory name := by
  rw [follow]
  rcases tree.step directory name with problem | next | ⟨next, content⟩ | next <;> rfl

/-- A path that leads somewhere does so by its names. -/
theorem follow_of_resolve {target : Target} (found : tree.resolve path = .ok target) :
    tree.follow (.start path) path.names = .ok target := by
  unfold resolve at found
  split at found
  · cases found
  · split at found
    · cases found
    · exact found

/-- A path that is not refused at once leads where its names lead. -/
theorem resolve_eq_follow (free : '\x00' ∉ path.text.toList)
    (short : path.text.utf8ByteSize ≤ maxPath) :
    tree.resolve path = tree.follow (.start path) path.names := by
  unfold resolve
  rw [if_neg (by simpa using free), if_neg (Nat.not_lt.mpr short)]

theorem resolve_of_long (free : '\x00' ∉ path.text.toList)
    (long : maxPath < path.text.utf8ByteSize) : tree.resolve path = .error .nameTooLong := by
  unfold resolve
  rw [if_neg (by simpa using free), if_pos long]

/-- A name in a directory leads to what stands there, unless the path to it is refused. -/
theorem resolve_child (found : tree.resolve path = .ok (.directory place)) (name : String) :
    tree.resolve (path.child name) = .error .nulInPath ∨
      tree.resolve (path.child name) = .error .nameTooLong ∨
      tree.resolve (path.child name) = tree.step place name := by
  have followed : tree.follow (.start (path.child name)) (path.child name).names =
      tree.step place name :=
    (follow_append (follow_of_resolve found) [name]).1.trans (follow_singleton name)
  unfold resolve
  split
  · exact .inl rfl
  · split
    · exact .inr (.inl rfl)
    · exact .inr (.inr followed)

/-- The way to a directory does not pass a place where nothing stands. -/
theorem notMem_passed_of_vacant {names : List String} {top : Location} (named : top.names ≠ [])
    (vacant : tree.lookup top = none) (outside : ¬ directory.Within top)
    (found : tree.follow directory names = .ok (.directory place)) :
    top ∉ tree.passed directory names := by
  induction names generalizing directory with
  | nil => exact List.not_mem_nil
  | cons first rest ih =>
    rw [follow] at found
    rw [passed]
    rcases step : tree.step directory first with problem | next | ⟨next, content⟩ | next
    · exact List.not_mem_nil
    · rw [step] at found
      -- A way that leads below `top` goes through it, where nothing stands.
      have beside : ¬ next.Within top := by
        rcases step_cases step with ⟨_, up⟩ | child
        · cases up
          exact Location.not_within_parent named outside
        rcases stands : tree.lookup (directory.child first) with _ | content | _
        · rw [stands] at child
          cases child
        · rw [stands] at child
          cases child
        · rw [stands] at child
          cases child
          refine Location.not_within_child outside fun same => ?_
          rw [same, vacant] at stands
          cases stands
      refine List.not_mem_cons_of_ne_of_not_mem ?_ (ih beside found)
      rintro rfl
      exact beside ⟨rfl, List.prefix_rfl⟩
    · rw [step] at found
      cases rest <;> cases found
    · rw [step] at found
      cases rest <;> cases found

/-- A name in a directory that leads to a directory is that of one. -/
theorem lookup_of_isDirectory (stands : tree.resolve path = .ok (.directory place))
    (counts : name ≠ "..") (found : tree.isDirectory (path.child name) = .ok true) :
    tree.lookup (place.child name) = some .directory := by
  unfold isDirectory at found
  rcases resolve_child stands name with refused | refused | stepped
  · rw [refused] at found
    cases found
  · rw [refused] at found
    cases found
  rw [stepped] at found
  by_cases long : name.utf8ByteSize > maxName
  · rw [step, if_neg counts, if_pos long] at found
    cases found
  rw [step_child counts (Nat.not_lt.mp long)] at found
  rcases entry : tree.lookup (place.child name) with _ | content | _
  · rw [entry] at found
    cases found
  · rw [entry] at found
    cases found
  · rfl

/-! ### Passing by -/

/-- A joined path passes what its first part passes, and then what the names of the second do. -/
theorem passes_join {q : Path} (found : tree.resolve path = .ok (.directory place))
    (here : q.root = "") :
    tree.passes (path.join q) = tree.passes path ++ tree.passed place q.names := by
  have joined : path.join q = ⟨path.root, path.names ++ q.names⟩ := by
    rw [Path.join, here]
    rfl
  rw [joined]
  exact (follow_append (follow_of_resolve found) q.names).2

/-- A name passes what it leads to. -/
theorem mem_passed_cons {l : Location} {rest : List String}
    (member : l ∈ tree.passed directory (name :: rest)) :
    name = ".." ∧ (l = directory.parent ∨ l ∈ tree.passed directory.parent rest) ∨
      l = directory.child name ∨ l ∈ tree.passed (directory.child name) rest := by
  rw [passed] at member
  rcases found : tree.step directory name with problem | next | ⟨next, content⟩ | next
  · rw [found] at member
    exact absurd member List.not_mem_nil
  · rw [found] at member
    rcases step_cases found with ⟨up, same⟩ | child
    · cases same
      exact .inl ⟨up, List.mem_cons.mp member⟩
    · have same := congrArg Target.place child
      rw [Target.place_ofEntry] at same
      rw [← show next = directory.child name from same]
      exact .inr (List.mem_cons.mp member)
  all_goals
    rw [found] at member
    rcases step_cases found with ⟨_, same⟩ | child
    · cases same
    · have same := congrArg Target.place child
      rw [Target.place_ofEntry] at same
      exact .inr (.inl ((List.mem_singleton.mp member).trans same))

/-! ### Listing -/

/-- What stands under a name in a directory is an entry of the tree. -/
theorem lookup_child : tree.lookup (place.child name) =
    (tree.entries.find? fun entry => entry.1 == place.child name).map Prod.snd := by
  unfold lookup Location.child
  rw [if_neg]
  simp

/-- A place gives a name in a directory if it is the child of this name. -/
theorem eq_child_iff {l : Location} :
    (if l.names ≠ [] ∧ l.parent = place then l.names.getLast? else none) = some name ↔
      l = place.child name := by
  constructor
  · intro listed
    split at listed
    · next inside =>
      obtain ⟨names, ends⟩ := List.getLast?_eq_some_iff.mp listed
      have child : l = Location.child ⟨l.base, names⟩ name := by
        rw [Location.child, ← ends]
      have above := inside.2
      rw [child, Location.parent_child] at above
      rw [child, above]
    · cases listed
  · rintro rfl
    have named : (place.child name).names ≠ [] := List.concat_ne_nil name place.names
    rw [if_pos ⟨named, Location.parent_child place name⟩]
    exact List.getLast?_concat

/-- More entries at other places do not matter. -/
theorem lookup_append {entries more : List (Location × Entry)} {l : Location}
    (others : ∀ entry ∈ more, entry.1 ≠ l) :
    (Tree.mk (entries ++ more)).lookup l = (Tree.mk entries).lookup l := by
  have none : more.find? (fun entry => entry.1 == l) = none :=
    List.find?_eq_none.mpr fun entry member => by simpa using others entry member
  unfold lookup
  rw [List.find?_append, none, Option.or_none]

/-- The names in a directory are those under which something stands. -/
theorem mem_namesIn : name ∈ tree.namesIn place ↔ (tree.lookup (place.child name)).isSome := by
  rw [namesIn, List.mem_eraseDups, List.mem_filterMap, lookup_child, Option.isSome_map,
    List.find?_isSome]
  refine exists_congr fun entry => and_congr_right fun _ => ?_
  rw [eq_child_iff, beq_iff_eq]

theorem nodup_namesIn (tree : Tree) (place : Location) : (tree.namesIn place).Nodup :=
  nodup_eraseDups _

/-- Trees of the same entries list the same names. -/
theorem namesIn_perm (same : ∀ l, other.lookup l = tree.lookup l) (place : Location) :
    (other.namesIn place).Perm (tree.namesIn place) := by
  refine (List.perm_ext_iff_of_nodup (nodup_namesIn other place) (nodup_namesIn tree place)).mpr ?_
  intro name
  rw [mem_namesIn, mem_namesIn, same]

end Tree

end CodecTables.Files
