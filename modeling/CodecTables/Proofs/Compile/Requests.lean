import CodecTables.Proofs.Compile.Names

/-!
# Requests for names

A supply is asked for names and for numbers of stems, in any order. Each answer has the number of
earlier requests for its stem, whatever was asked for other stems (`getElem?_answers`). So the names
that are given out differ if no stem prolongs another one by digits (`nodup_texts`). If one does,
the two stems can be given the same name (`not_nodup_texts`), as `tree` and `tree1` are.
-/

namespace CodecTables.Compile

/-- A request for the next name of a stem, or for the next number alone. -/
inductive Request where
  | name (stem : String)
  | index (stem : String)

/-- The answer to a request: a name, or an index. -/
inductive Answer where
  | name (text : String)
  | index (n : Nat)

/-- The name in an answer. -/
def Answer.text? : Answer → Option String
  | name text => some text
  | index _ => none

/-- The names among answers, in order. -/
def textsOf (answers : List Answer) : List String := answers.filterMap Answer.text?

namespace Request

/-- The stem that a request is for. -/
def stem : Request → String
  | name stem => stem
  | index stem => stem

@[simp]
theorem stem_name (stem : String) : (name stem).stem = stem := rfl

@[simp]
theorem stem_index (stem : String) : (index stem).stem = stem := rfl

/-- The answer to a request if its stem has come to the given number. -/
def answer : Request → Nat → Answer
  | name stem, n => .name (NameSupply.name stem n)
  | index _, n => .index n

/-- How many requests are for a stem. -/
def countOf (requests : List Request) (stem : String) : Nat :=
  requests.countP fun request => request.stem == stem

theorem countOf_cons (request : Request) (requests : List Request) (stem : String) :
    countOf (request :: requests) stem =
      countOf requests stem + if stem = request.stem then 1 else 0 := by
  simp only [countOf, List.countP_cons, beq_iff_eq, @eq_comm _ request.stem stem]

end Request

namespace NameSupply

/-- The answer to a request, and the supply after it. -/
def serve (supply : NameSupply) : Request → Answer × NameSupply
  | .name stem => ((supply.next stem).map .name id)
  | .index stem => ((supply.nextIndex stem).map .index id)

/-- The answers to requests that are made one after the other. -/
def answers (supply : NameSupply) : List Request → List Answer
  | [] => []
  | request :: rest =>
    let (answer, supply) := supply.serve request
    answer :: supply.answers rest

theorem index_empty (stem : String) : empty.index stem = 0 := rfl

/-- A request is answered by the index of its stem, which is then counted up. -/
theorem serve_eq (supply : NameSupply) (request : Request) :
    supply.serve request =
      (request.answer (supply.index request.stem), supply.advance request.stem) := by
  cases request <;> rfl

theorem answers_cons (supply : NameSupply) (request : Request) (requests : List Request) :
    supply.answers (request :: requests) =
      request.answer (supply.index request.stem) ::
        (supply.advance request.stem).answers requests := by
  rw [answers, serve_eq]

/-- The answer to a request has the number of earlier requests for its stem. -/
theorem getElem?_answers (supply : NameSupply) (requests : List Request) (place : Nat) :
    (supply.answers requests)[place]? = requests[place]?.map fun request => request.answer
      (supply.index request.stem + Request.countOf (requests.take place) request.stem) := by
  induction requests generalizing supply place with
  | nil => rfl
  | cons first rest ih =>
    rw [answers_cons]
    cases place with
    | zero => simp [Request.countOf]
    | succ place =>
      rw [List.getElem?_cons_succ, List.getElem?_cons_succ, ih, List.take_succ_cons]
      refine Option.map_congr fun request _ => ?_
      rw [index_advance, Request.countOf_cons, Nat.add_assoc, Nat.add_comm (ite _ _ _)]

/-- A name is given for a number that its stem has not been given before. -/
theorem exists_of_mem_texts {supply : NameSupply} {requests : List Request} {text : String}
    (given : text ∈ textsOf (supply.answers requests)) :
    ∃ stem n, .name stem ∈ requests ∧ supply.index stem ≤ n ∧ text = name stem n := by
  induction requests generalizing supply with
  | nil => cases given
  | cons first rest ih =>
    rw [answers_cons, textsOf, List.filterMap_cons] at given
    have later (member : text ∈ textsOf ((supply.advance first.stem).answers rest)) :
        ∃ stem n, .name stem ∈ first :: rest ∧ supply.index stem ≤ n ∧ text = name stem n := by
      obtain ⟨stem, n, asked, reached, same⟩ := ih member
      rw [index_advance] at reached
      exact ⟨stem, n, List.mem_cons_of_mem _ asked, by omega, same⟩
    cases first with
    | index stem => exact later given
    | name stem =>
      rcases List.mem_cons.mp given with rfl | member
      · exact ⟨stem, supply.index stem, List.mem_cons_self, Nat.le_refl _, rfl⟩
      · exact later member

/-- Names differ if no stem of them prolongs another one. -/
theorem nodup_texts (supply : NameSupply) {requests : List Request}
    (apart : ∀ stem other, .name stem ∈ requests → .name other ∈ requests → ¬ Prolongs stem other) :
    (textsOf (supply.answers requests)).Nodup := by
  induction requests generalizing supply with
  | nil => exact List.nodup_nil
  | cons first rest ih =>
    have others := ih (supply.advance first.stem) fun stem other asked asked' =>
      apart stem other (List.mem_cons_of_mem _ asked) (List.mem_cons_of_mem _ asked')
    rw [answers_cons]
    cases first with
    | index stem => exact others
    | name stem =>
      refine List.nodup_cons.mpr ⟨fun again => ?_, others⟩
      obtain ⟨other, n, asked, reached, same⟩ := exists_of_mem_texts again
      have here : Request.name stem ∈ Request.name stem :: rest := List.mem_cons_self
      have there := List.mem_cons_of_mem (.name stem) asked
      rcases eq_or_prolongs_of_name_eq same with ⟨rfl, rfl⟩ | prolongs | prolongs
      · -- the counter of the stem has moved past this number
        simp only [index_advance, Request.stem, if_true] at reached
        omega
      · exact apart stem other here there prolongs
      · exact apart other stem there here prolongs

/-- Stems of which one prolongs the other one can be given the same name. -/
theorem not_nodup_texts {stem other : String} (prolongs : Prolongs stem other) :
    ∃ requests : List Request, (∀ asked, .name asked ∈ requests → asked = stem ∨ asked = other) ∧
      ¬ (textsOf (empty.answers requests)).Nodup := by
  obtain ⟨n, same⟩ := prolongs.name_eq
  -- the other stem is counted up to the number at which the names meet
  let requests : List Request := List.replicate n (.index other) ++ [.name other, .name stem]
  have former : (empty.answers requests)[n]? = some (.name (name other n)) := by
    simp [getElem?_answers, requests, Request.countOf, Request.answer, index_empty,
      List.countP_replicate]
  have latter : (empty.answers requests)[n + 1]? = some (.name (name stem 0)) := by
    simp [getElem?_answers, requests, Request.countOf, Request.answer, index_empty,
      List.countP_replicate, List.take_append, prolongs.ne.symm]
  refine ⟨requests, ?_, fun distinct => ?_⟩
  · intro asked member
    simpa [requests, or_comm] using member
  · obtain ⟨early, former⟩ := List.getElem?_eq_some_iff.mp former
    obtain ⟨late, latter⟩ := List.getElem?_eq_some_iff.mp latter
    have pairs := List.pairwise_iff_getElem.mp (List.pairwise_filterMap.mp distinct) n (n + 1)
      early late (Nat.lt_succ_self n)
    rw [former, latter] at pairs
    exact pairs _ rfl _ rfl same.symm

/-- Every request is answered with the number of earlier requests for its stem. The names of some
stems are pairwise distinct, whatever else is asked for and in any order, if and only if none of
these stems prolongs another one. -/
theorem requests_answered (requests : List Request) (among : String → Prop) :
    (∀ place : Nat, (empty.answers requests)[place]? = requests[place]?.map fun request =>
      request.answer (Request.countOf (requests.take place) request.stem)) ∧
    ((∀ asked : List Request, (∀ stem, .name stem ∈ asked → among stem) →
        (textsOf (empty.answers asked)).Nodup) ↔
      ∀ stem other, among stem → among other → ¬ Prolongs stem other) := by
  refine ⟨fun place => ?_, fun distinct stem other known known' prolongs => ?_,
    fun apart asked listed => ?_⟩
  · simpa [index_empty] using getElem?_answers empty requests place
  · obtain ⟨asked, stems, clash⟩ := not_nodup_texts prolongs
    refine clash (distinct asked fun name member => ?_)
    rcases stems name member with rfl | rfl
    · exact known
    · exact known'
  · exact nodup_texts empty fun stem other member member' =>
      apart stem other (listed stem member) (listed other member')

/-- Requests for names and for an index, of which one stem shares the counter. -/
theorem requests_answered_stems :
    (empty.answers [.name "tree", .index "file", .name "file", .name "tree"])[2]? =
      some (.name "file1") ∧
    (textsOf (empty.answers [.name "tree", .index "file", .name "file", .name "tree"])).Nodup := by
  have apart : ∀ stem other, stem ∈ stems → other ∈ stems → ¬ Prolongs stem other :=
    fun _ other known _ => not_prolongs_of_isPlain (isPlain_of_mem_stems known) other
  obtain ⟨numbered, distinct⟩ := requests_answered
    [.name "tree", .index "file", .name "file", .name "tree"] (· ∈ stems)
  refine ⟨numbered 2, distinct.mpr apart _ fun stem asked => ?_⟩
  have listed : stem = "tree" ∨ stem = "file" ∨ stem = "tree" := by simpa using asked
  rcases listed with rfl | rfl | rfl <;> decide

/-- The eleventh name of a stem can be the first name of another one. -/
theorem requests_answered_clash :
    textsOf (empty.answers (List.replicate 10 (.index "tree") ++ [.name "tree", .name "tree1"])) =
      ["tree10", "tree10"] := by decide

end NameSupply

end CodecTables.Compile
