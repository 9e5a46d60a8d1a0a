import CodecTables.Files.Tree
import Mathlib

/-!
# Characters of paths

The characters of a path are those of its root and its names, so that a path in a directory brings
no others with it than the directory and itself (`lacks_join_iff`). A file is refused for the
character U+0000 if its path holds it, and only then (`read_eq_nulInPath_iff`).
-/

namespace CodecTables.Files

namespace Path

variable {c : Char}

theorem name_child (directory : Path) (last : String) : (directory.child last).name = last := by
  unfold name child
  rw [List.getLast?_concat]
  rfl

/-- Another character than the divider is in a joined text if it is in one of the parts. -/
theorem mem_intercalate (other : c ≠ '/') (names : List String) :
    c ∈ ("/".intercalate names).toList ↔ ∃ name ∈ names, c ∈ name.toList := by
  induction names with
  | nil => simp
  | cons name rest ih =>
    cases rest with
    | nil => simp
    | cons next rest =>
      rw [String.intercalate_cons_cons, String.toList_append, String.toList_append,
        List.mem_append, List.mem_append, ih]
      simp [other]

/-- The characters of the names of a path are characters of the path. -/
theorem mem_of_mem_splitNames {cs name : List Char} (member : name ∈ splitNames cs)
    (inside : c ∈ name) : c ∈ cs := by
  induction cs generalizing name with
  | nil =>
    rw [splitNames, List.mem_singleton] at member
    rw [member] at inside
    exact absurd inside List.not_mem_nil
  | cons d cs ih =>
    rw [splitNames] at member
    split at member
    · rcases List.mem_cons.mp member with rfl | later
      · exact absurd inside List.not_mem_nil
      · exact List.mem_cons_of_mem _ (ih later inside)
    · split at member
      · rw [List.mem_singleton.mp member, List.mem_singleton] at inside
        rw [inside]
        exact List.mem_cons_self
      · next first rest split =>
        rw [split] at ih
        rcases List.mem_cons.mp member with rfl | later
        · rcases List.mem_cons.mp inside with rfl | inside
          · exact List.mem_cons_self
          · exact List.mem_cons_of_mem _ (ih List.mem_cons_self inside)
        · exact List.mem_cons_of_mem _ (ih (List.mem_cons_of_mem _ later) inside)

/-- Splitting a text leaves out no character but the slashes. -/
theorem exists_mem_splitNames (other : c ≠ '/') {cs : List Char} (inside : c ∈ cs) :
    ∃ name ∈ splitNames cs, c ∈ name := by
  induction cs with
  | nil => exact absurd inside List.not_mem_nil
  | cons d cs ih =>
    rw [splitNames]
    by_cases slash : d = '/'
    · rw [if_pos slash]
      have later : c ∈ cs :=
        (List.mem_cons.mp inside).resolve_left fun same => other (same.trans slash)
      obtain ⟨name, member, inner⟩ := ih later
      exact ⟨name, List.mem_cons_of_mem _ member, inner⟩
    · rw [if_neg slash]
      cases split : splitNames cs with
      | nil =>
        rw [split] at ih
        have none : c ∉ cs := fun later =>
          have ⟨_, member, _⟩ := ih later
          List.not_mem_nil member
        exact ⟨[d], List.mem_cons_self,
          List.mem_singleton.mpr ((List.mem_cons.mp inside).resolve_right none)⟩
      | cons first rest =>
        rw [split] at ih
        rcases List.mem_cons.mp inside with rfl | later
        · exact ⟨c :: first, List.mem_cons_self, List.mem_cons_self⟩
        · obtain ⟨name, member, inner⟩ := ih later
          rcases List.mem_cons.mp member with rfl | member
          · exact ⟨d :: name, List.mem_cons_self, List.mem_cons_of_mem _ inner⟩
          · exact ⟨name, List.mem_cons_of_mem _ member, inner⟩

/-- A root is made of slashes. -/
theorem eq_slash_of_mem_rootOf {cs : List Char} (member : c ∈ (rootOf cs).toList) : c = '/' := by
  unfold rootOf at member
  split at member
  · exact absurd member List.not_mem_nil
  · simpa using member
  · simpa using member

/-- The character is in no part of the path. -/
def Lacks (c : Char) (p : Path) : Prop := c ∉ p.root.toList ∧ ∀ name ∈ p.names, c ∉ name.toList

theorem lacks_ofString (other : c ≠ '/') {s : String} (absent : c ∉ s.toList) :
    Lacks c (ofString s) := by
  constructor
  · intro member
    exact other (eq_slash_of_mem_rootOf member)
  · intro name member inside
    obtain ⟨cs, kept, rfl⟩ := List.mem_map.mp member
    rw [String.toList_ofList] at inside
    exact absent (mem_of_mem_splitNames (List.mem_filter.mp kept).1 inside)

/-- A path of a text leaves out no character but slashes and points. -/
theorem lacks_ofString_iff (slash : c ≠ '/') (point : c ≠ '.') (s : String) :
    Lacks c (ofString s) ↔ c ∉ s.toList := by
  refine ⟨fun lacks inside => ?_, lacks_ofString slash⟩
  obtain ⟨name, member, inner⟩ := exists_mem_splitNames slash inside
  have counted : counts name = true := by
    have some : name ≠ [] := List.ne_nil_of_mem inner
    have other : name ≠ ['.'] := by
      rintro rfl
      exact point (List.mem_singleton.mp inner)
    simp [counts, some, other]
  refine lacks.2 (String.ofList name) ?_ (by rwa [String.toList_ofList])
  exact List.mem_map.mpr ⟨name, List.mem_filter.mpr ⟨member, counted⟩, rfl⟩

theorem lacks_iff (slash : c ≠ '/') (point : c ≠ '.') (p : Path) :
    c ∉ p.text.toList ↔ Lacks c p := by
  unfold text Lacks
  split
  · next empty =>
    obtain ⟨root, names⟩ := Bool.and_eq_true_iff.mp empty
    rw [String.isEmpty_iff] at root
    rw [List.isEmpty_iff] at names
    simp [root, names, point]
  · rw [String.toList_append, List.mem_append, mem_intercalate slash]
    simp

/-- Names can be joined to a path one by one. -/
theorem child_join (p : Path) (name : String) (names : List String) :
    (p.child name).join ⟨"", names⟩ = p.join ⟨"", name :: names⟩ :=
  congrArg (Path.mk p.root) (List.append_assoc p.names [name] names)

theorem lacks_join {p q : Path} (first : Lacks c p) (second : Lacks c q) : Lacks c (p.join q) := by
  unfold join
  split
  · refine ⟨first.1, fun name member => ?_⟩
    rcases List.mem_append.mp member with early | late
    · exact first.2 name early
    · exact second.2 name late
  · exact second

/-- A text without a slash is a single name. -/
theorem splitNames_of_notMem {cs : List Char} (free : '/' ∉ cs) : splitNames cs = [cs] := by
  induction cs with
  | nil => rfl
  | cons c cs ih =>
    obtain ⟨other, rest⟩ := List.ne_and_not_mem_of_not_mem_cons free
    rw [splitNames, if_neg (Ne.symm other), ih rest]

/-- A joined path has the characters of the second path, and those of the first unless the second
has a root of its own. -/
theorem lacks_join_iff {p q : Path} :
    Lacks c (p.join q) ↔ Lacks c q ∧ (q.root.isEmpty = true → Lacks c p) := by
  refine ⟨fun lacks => ?_, fun lacks => ?_⟩
  · unfold join at lacks
    split at lacks
    · next relative =>
      have root : q.root = "" := String.isEmpty_iff.mp relative
      refine ⟨⟨by simp [root], fun name member => ?_⟩, fun _ => ⟨lacks.1, fun name member => ?_⟩⟩
      · exact lacks.2 name (List.mem_append_right _ member)
      · exact lacks.2 name (List.mem_append_left _ member)
    · next absolute => exact ⟨lacks, fun relative => absurd relative absolute⟩
  · by_cases relative : q.root.isEmpty = true
    · exact lacks_join (lacks.2 relative) lacks.1
    · rw [join, if_neg relative]
      exact lacks.1

/-- A text without a slash is one name, or none. -/
theorem ofString_of_notMem {s : String} (free : '/' ∉ s.toList) :
    ofString s = ⟨"", []⟩ ∨ ofString s = ⟨"", [s]⟩ := by
  have root : rootOf s.toList = "" := by
    unfold rootOf
    have none : s.toList.takeWhile (· = '/') = [] := by
      cases split : s.toList with
      | nil => rfl
      | cons c cs =>
        rw [split] at free
        rw [List.takeWhile_cons_of_neg]
        simpa using Ne.symm (List.ne_of_not_mem_cons free)
    rw [none]
    rfl
  unfold ofString
  rw [root, splitNames_of_notMem free, List.filter_cons, List.filter_nil]
  cases counts s.toList with
  | false => exact .inl rfl
  | true =>
    rw [if_pos rfl, List.map_singleton, String.ofList_toList]
    exact .inr rfl

/-- Each name takes its own bytes and those of the slash before the next. -/
theorem utf8ByteSize_intercalate {names : List String} (some : names ≠ []) :
    ("/".intercalate names).utf8ByteSize + 1 =
      (names.map fun name => name.utf8ByteSize + 1).sum := by
  induction names with
  | nil => exact absurd rfl some
  | cons name rest ih =>
    cases rest with
    | nil => simp
    | cons next rest =>
      rw [String.intercalate_cons_cons, String.utf8ByteSize_append, String.utf8ByteSize_append,
        List.map_cons, List.sum_cons, ← ih (List.cons_ne_nil next rest)]
      have slash : "/".utf8ByteSize = 1 := rfl
      omega

/-- The size of a path under the working directory. -/
theorem utf8ByteSize_text {names : List String} (some : names ≠ []) :
    (Path.text ⟨"", names⟩).utf8ByteSize + 1 =
      (names.map fun name => name.utf8ByteSize + 1).sum := by
  rw [← utf8ByteSize_intercalate some]
  unfold text
  rw [List.isEmpty_eq_false_iff.mpr some, Bool.and_false, if_neg Bool.false_ne_true,
    String.empty_append]

end Path

namespace Tree

/-- A name on the way is no cause for the complaint about U+0000. -/
theorem step_ne_nulInPath (tree : Tree) (directory : Location) (name : String) :
    tree.step directory name ≠ .error .nulInPath := by
  unfold step
  split
  · exact nofun
  · split
    · exact nofun
    · exact nofun

/-- A chain of names is no cause for the complaint about U+0000. -/
theorem follow_ne_nulInPath (tree : Tree) (directory : Location) (names : List String) :
    tree.follow directory names ≠ .error .nulInPath := by
  induction names generalizing directory with
  | nil => exact nofun
  | cons name rest ih =>
    rw [follow]
    have first := tree.step_ne_nulInPath directory name
    split
    · next problem failed =>
      rw [failed] at first
      exact first
    · exact ih _
    · split
      · exact nofun
      · split <;> exact nofun

/-- A path without U+0000 is not refused for it. -/
theorem resolve_ne_nulInPath (tree : Tree) {path : Path} (absent : '\x00' ∉ path.text.toList) :
    tree.resolve path ≠ .error .nulInPath := by
  unfold resolve
  rw [if_neg (by simpa using absent)]
  split
  · exact nofun
  · exact tree.follow_ne_nulInPath (.start path) path.names

/-- A file is refused for the character U+0000 only if its path holds it. -/
theorem read_ne_nulInPath (tree : Tree) {path : Path} (absent : '\x00' ∉ path.text.toList) :
    tree.read path ≠ .error .nulInPath := by
  have found := tree.resolve_ne_nulInPath absent
  unfold read
  split
  · next problem failed =>
    rw [failed] at found
    exact fun same => found (congrArg Except.error (Except.error.inj same))
  · exact nofun
  · exact nofun
  · exact nofun

/-- A file cannot be read for U+0000 just when its path holds this character. -/
theorem read_eq_nulInPath_iff (tree : Tree) {path : Path} :
    tree.read path = .error .nulInPath ↔ '\x00' ∈ path.text.toList := by
  constructor
  · intro refused
    by_cases inside : '\x00' ∈ path.text.toList
    · exact inside
    · exact absurd refused (tree.read_ne_nulInPath inside)
  · intro inside
    have refused : tree.resolve path = .error .nulInPath := if_pos (by simpa using inside)
    rw [read, refused]

end Tree

end CodecTables.Files
