import CodecTables.Proofs.Compile.Order
import CodecTables.Proofs.Compile.Visits
import CodecTables.Proofs.Source.Legible

/-!
# Texts of compiled sources

What is compiled after an opening can be read off the text of the source: every name that is
declared is a word, every comment is a single line, and every value has the form of its type. So
sources with the same opening and the same text are the same (`statements_eq_of_render_eq`).
-/

namespace CodecTables.Compile

open Source (IsWord Legible Node Print Prints Writer)

/-! ### Words -/

/-- Names that are given out are words. -/
theorem isWord_name {stem : String} (known : stem ∈ NameSupply.stems) (index : Nat) :
    IsWord (NameSupply.name stem index) where
  present := by simp [NameSupply.toList_name]
  other := (NameSupply.ne_name_of_isPlain (by decide) stem index).symm
  letters c member := by
    have stems : NameSupply.stems.all (fun stem => stem.toList.all Char.isAlphanum) = true := by
      decide
    have letters := List.all_eq_true.mp (List.all_eq_true.mp stems stem known)
    rw [NameSupply.toList_name] at member
    rcases List.mem_append.mp member with letter | digit
    · exact .inl (letters c letter)
    · exact .inl (by simp [Char.isAlphanum, NameSupply.isDigit_of_mem_count digit])

/-- The names of tables, and of the numbers of their rows, are words. -/
theorem isWord_of_mem_tablesOf {e : Resource.Entity} {table : String × String}
    (member : table ∈ tablesOf defaultKextTable e) :
    IsWord table.2 ∧ IsWord (sizeName table.2) := by
  cases e with
  | lookupTable | kextTable | vendorGroups | controllerTable =>
    rw [List.mem_singleton.mp member]
    decide
  | _ => exact absurd member List.not_mem_nil

section Runs

variable {opening : List Node} {types : TypeTables} {names : NameSupply} {list : List Visit}
  {results : List (List Node)} {s : State}
  (none : Source.declaredNames opening = [])
  (run : Takes (visits buffer list) (.start opening types names) results s)

include none run

/-- Every declared name is a word. -/
theorem isWord_of_mem_declaredNames {name : String}
    (member : name ∈ Source.declaredNames s.statements) : IsWord name := by
  have courses : Courses (fun _ => True) (.start opening types names) _ _ s :=
    courses_visits NameSupply.isPlain_kextTable (fun _ _ => trivial) run
  by_cases plain : NameSupply.isPlain name = true
  · have empty : plainNames (State.start opening types names).statements = [] := by
      simp [plainNames, State.start, none]
    have table : name ∈ plainNames s.statements := List.mem_filter.mpr ⟨member, plain⟩
    rw [courses.plainNames, empty, List.nil_append] at table
    obtain ⟨table, declared, named⟩ := List.mem_flatMap.mp table
    obtain ⟨visit, _, declared⟩ := List.mem_flatMap.mp declared
    obtain ⟨word, word'⟩ := isWord_of_mem_tablesOf declared
    rcases List.mem_pair.mp named with rfl | rfl
    · exact word
    · exact word'
  · have named : Named s := (Named.start none types names).courses courses
    obtain ⟨stem, known, index, _, rfl⟩ :=
      named.earlier name (List.mem_filter.mpr ⟨member, by simpa using plain⟩)
    exact isWord_name known index

/-- What is compiled after an opening can be read off its text. -/
theorem exists_legible :
    ∃ added, s.statements = opening ++ added ∧ ∀ statement ∈ added, Legible statement := by
  obtain ⟨_, added, same, inTurn⟩ :=
    (Grounded.start opening types names).visits NameSupply.isPlain_kextTable run
  refine ⟨added, same, fun statement member => ?_⟩
  obtain ⟨front, back, rfl⟩ := List.append_of_mem member
  have earlier : opening ++ front <+: s.statements :=
    ⟨statement :: back, by rw [same]; exact List.append_assoc _ _ _⟩
  have inside : statement ∈ s.statements := same ▸ List.mem_append_right _ member
  exact inTurn.admits.legible
    (fun name declared =>
      isWord_of_mem_declaredNames none run (List.mem_filterMap.mpr ⟨statement, inside, declared⟩))
    (fun name declared =>
      isWord_of_mem_declaredNames none run ((earlier.filterMap _).mem declared))

end Runs

/-! ### Texts -/

/-- The text of a compiled source tells its statements. Two runs of entities after the same opening,
whatever the entities and the files are, leave the same statements if they leave the same text,
printed with the same unit of indentation, such as blanks and tabs. -/
theorem statements_eq_of_render_eq {opening : List Node} {types types' : TypeTables}
    {names names' : NameSupply} {list list' : List Visit} {results results' : List (List Node)}
    {s s' : State} {unit text : String} (none : Source.declaredNames opening = [])
    (run : Takes (visits buffer list) (.start opening types names) results s)
    (run' : Takes (visits buffer list') (.start opening types' names') results' s')
    (line : '\n' ∉ unit.toList)
    (rendered : (Node.sourceCode s.statements).render unit = .ok text)
    (rendered' : (Node.sourceCode s'.statements).render unit = .ok text) :
    s.statements = s'.statements := by
  obtain ⟨added, same, legible⟩ := exists_legible none run
  obtain ⟨added', same', legible'⟩ := exists_legible none run'
  obtain ⟨v, printed, written⟩ := Source.exists_prints_of_render rendered
  obtain ⟨v', printed', written'⟩ := Source.exists_prints_of_render rendered'
  rw [same] at printed
  rw [same'] at printed'
  obtain ⟨u, opened, rest⟩ := Source.prints_printAll_append.mp printed
  obtain ⟨u', opened', rest'⟩ := Source.prints_printAll_append.mp printed'
  rw [← opened.unique opened'] at rest'
  have kept : '\n' ∉ u.unit.toList := by
    rwa [(opened.grows (Source.steady_printAll opening)).unit]
  have texts : v.chars = v'.chars := congrArg String.toList (written.trans written'.symm)
  rw [same, same', Source.eq_of_prints_printAll legible legible' kept rest rest' texts]

/-- The run of the entities of a source with one codec, which is looked up. -/
def oneCodec (comment : String) : Except Stop (List (List Node)) × State :=
  outcome
    (visits buffer
      [⟨.empty, .lookupTable [⟨["IODeviceTree", "\x7b\", \"\x7d"], 1, false, comment⟩]⟩,
        ⟨.empty, .kextTable (.ofDictionary [])⟩, ⟨.empty, .vendorGroups []⟩,
        ⟨.empty, .controllerTable []⟩])
    (.start [] (.start none) .empty)

/-- Two entries that differ in a comment have the same text and statements. -/
theorem statements_eq_of_render_eq_comments : ∃ results results' s s' text,
    oneCodec "" = (.ok results, s) ∧ oneCodec "N/A" = (.ok results', s') ∧
    (Node.sourceCode s.statements).render "\t" = .ok text ∧
    (Node.sourceCode s'.statements).render "\t" = .ok text ∧ s.statements = s'.statements := by
  have printed : ((oneCodec "").1.toOption.bind fun _ =>
      ((Node.sourceCode (oneCodec "").2.statements).render "\t").toOption).isSome = true := by
    decide +kernel
  have same : oneCodec "N/A" = oneCodec "" := rfl
  rcases run : oneCodec "" with ⟨stop | results, s⟩
  · rw [run] at printed
    cases printed
  · rcases rendered : (Node.sourceCode s.statements).render "\t" with _ | text
    · simp [run, rendered, Except.toOption] at printed
    · have run' : oneCodec "N/A" = (.ok results, s) := same.trans run
      exact ⟨results, results, s, s, text, rfl, run', rendered, rendered,
        statements_eq_of_render_eq rfl run run' (by decide) rendered rendered⟩

end CodecTables.Compile
