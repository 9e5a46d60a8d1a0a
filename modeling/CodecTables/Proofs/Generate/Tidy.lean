import CodecTables.Proofs.Compile.Titles
import CodecTables.Proofs.Generate.Banner
import CodecTables.Proofs.Generate.Counts

/-!
# Tidy sources

Behind the inclusion of the header, no line of a generated source ends in a blank, and nothing moves
in a line but the tabs of its margin (`build_tidy`). The banner before it is filled up with blanks,
so it is not tidy.
-/

namespace CodecTables.Generate

open Resource (VendorGroup)
open Source (Node TidyLine)

/-- The statement includes a header. -/
def isInclusion : Node → Bool
  | .inclusion _ => true
  | _ => false

/-- The statements of a source behind the first inclusion. -/
def afterInclusion (source : List Node) : List Node :=
  (source.dropWhile fun statement => !isInclusion statement).drop 1

/-- What comes after the inclusion is what was added to the opening. -/
theorem afterInclusion_opening (settings : Settings) (lines : List String) (added : List Node) :
    afterInclusion (Generator.opening settings lines ++ added) = added := by
  have banner : ∀ statement ∈ lines.map Node.comment, (!isInclusion statement) = true := by
    intro statement member
    obtain ⟨line, _, rfl⟩ := List.mem_map.mp member
    rfl
  rw [afterInclusion, Generator.opening, List.append_assoc, List.dropWhile_append_of_pos banner]
  rfl

/-- An opening has a text with every unit. -/
theorem exists_render_opening (settings : Settings) (lines : List String) (unit : String) :
    ∃ text, (Node.sourceCode (Generator.opening settings lines)).render unit = .ok text :=
  ⟨_, render_opening settings lines unit⟩

/-- With a unit of blanks and tabs, the text of a source that is built ends in the text of the
statements behind the inclusion, and the lines of this text are tidy. -/
theorem build_tidy {generator : Generator} {groups? : Option (List VendorGroup)} {w w' : Workspace}
    {source : List Node} (built : outcome (generator.build groups?) w = (.ok source, w'))
    {unit text : String} (blank : ∀ c ∈ unit.toList, c = ' ' ∨ c = '\t')
    (rendered : (Node.sourceCode (afterInclusion source)).render unit = .ok text) :
    (∃ front, (Node.sourceCode source).render unit = .ok (front ++ text)) ∧
      ∀ line ∈ text.toList.splitOn '\n', TidyLine unit line := by
  obtain ⟨files, groups, lines, results, state, run, rfl⟩ := exists_takes_of_build built
  obtain ⟨added, whole, tidy⟩ := Compile.exists_tidy (declaredNames_opened _ _) run
  have same : state.statements = Generator.opening generator.settings lines ++ added := whole
  rw [same, afterInclusion_opening] at rendered
  obtain ⟨front, begun⟩ := exists_render_opening generator.settings lines unit
  refine ⟨⟨front, ?_⟩, Source.tidyLine_of_render tidy blank rendered⟩
  rw [same, Source.render_append, begun, rendered]
  rfl

/-- The source of one bundle is tidy after its inclusion. -/
theorem build_tidy_oneBundle : ∃ source w' text,
    outcome (oneKext.build (some oneBundle)) oneFile = (.ok source, w') ∧
    (Node.sourceCode (afterInclusion source)).render " \t" = .ok text ∧
    (∃ front, (Node.sourceCode source).render " \t" = .ok (front ++ text)) ∧
    ∀ line ∈ text.toList.splitOn '\n', TidyLine " \t" line := by
  have printed : ((outcome (oneKext.build (some oneBundle)) oneFile).1.toOption.bind fun source =>
      ((Node.sourceCode (afterInclusion source)).render " \t").toOption).isSome = true := by
    decide +kernel
  rcases built : outcome (oneKext.build (some oneBundle)) oneFile with ⟨failure | source, w'⟩
  · rw [built] at printed
    cases printed
  · rcases rendered : (Node.sourceCode (afterInclusion source)).render " \t" with _ | text
    · simp [built, rendered, Except.toOption] at printed
    · have blank : ∀ c ∈ " \t".toList, c = ' ' ∨ c = '\t' := by simp
      exact ⟨source, w', text, rfl, rendered, build_tidy built blank rendered⟩

end CodecTables.Generate
