import CodecTables.Compile.Rule

/-!
# Places of kexts

The places of a kext table are noted entry by entry: a name takes its place at once, an identifier
only if nothing has it. In the end a name of the table is at the place of its entry, and any other
identifier at that of the first entry that has it (`find?_notePlaces`).
-/

namespace CodecTables

open Plist (Scalar)
open Resource (KextInfo KextTable)

namespace Plist

/-! ### String keys -/

/-- A key is the same as a text only if it is this text. -/
theorem Scalar.sameKey_string (key : Scalar) (text : String) :
    key.sameKey (.string text) = true ↔ key = .string text := by
  cases key with
  | real value => cases value <;> simp [Scalar.sameKey, Scalar.amount?]
  | _ => simp [Scalar.sameKey, Scalar.amount?]

/-- A text is the same as a key only if the key is this text. -/
theorem Scalar.string_sameKey (text : String) (key : Scalar) :
    (Scalar.string text).sameKey key = true ↔ key = .string text := by
  cases key with
  | real value => cases value <;> simp [Scalar.sameKey, Scalar.amount?]
  | string other => simpa [Scalar.sameKey, Scalar.amount?] using eq_comm
  | _ => simp [Scalar.sameKey, Scalar.amount?]

/-- A string key leads to the value that was stored under it last. -/
theorem Dictionary.find?_insert {α : Type} (entries : List (Scalar × α)) (key : Scalar) (value : α)
    (text : String) :
    find? (insert entries key value) text =
      if key = .string text then some value else find? entries text := by
  induction entries with
  | nil => by_cases same : key = .string text <;> simp [insert, find?, same]
  | cons entry rest ih =>
    obtain ⟨k, v⟩ := entry
    by_cases taken : k.sameKey key = true
    · rw [insert, if_pos taken]
      by_cases same : key = .string text
      · rw [same] at taken
        have found := (Scalar.sameKey_string k text).mp taken
        simp [find?, found, same]
      · have other : k ≠ .string text := by
          rintro rfl
          exact same ((Scalar.string_sameKey text key).mp taken)
        simp [find?, same, other]
    · rw [insert, if_neg taken]
      by_cases found : k = .string text
      · have other : key ≠ .string text := by
          rintro rfl
          exact taken ((Scalar.sameKey_string k text).mpr found)
        simp [find?, found, other]
      · have skipped : ∀ tail : List (Scalar × α), find? ((k, v) :: tail) text = find? tail text :=
          fun tail => by simp [find?, found]
        rw [skipped, skipped, ih]

theorem Dictionary.find?_append {α : Type} (entries entries' : List (Scalar × α)) (text : String) :
    find? (entries ++ entries') text = (find? entries text).or (find? entries' text) := by
  rw [find?, List.find?_append, Option.map_or]
  rfl

/-- In a dictionary that is distinct, earlier keys are not the same as later ones. -/
theorem Dictionary.Distinct.apart {α : Type} {entries rest : List (Scalar × α)}
    {entry other : Scalar × α} (distinct : Distinct (entries ++ entry :: rest))
    (member : other ∈ entries) : other.1.sameKey entry.1 = false := by
  unfold Distinct at distinct
  rw [List.map_append, List.map_cons] at distinct
  exact (List.pairwise_append.mp distinct).2.2 _ (List.mem_map_of_mem member) _ List.mem_cons_self

end Plist

/-! ### Tables -/

namespace Resource.KextTable

/-- The kext of a text in a table is that at a place: the one of this name, or else the first one of
this identifier. -/
def Resolves (table : KextTable) (text : String) (place : Nat) : Prop :=
  (∃ info, table.entries[place]? = some (.string text, info)) ∨
    (∀ entry ∈ table.entries, entry.1 ≠ .string text) ∧
      (∃ entry, table.entries[place]? = some entry ∧ entry.2.identifier = text) ∧
      ∀ earlier < place, ∀ entry, table.entries[earlier]? = some entry →
        entry.2.identifier ≠ text

end Resource.KextTable

namespace Compile

/-- The place of a text among entries: that of the name, or else the first of the identifier. -/
def place? (entries : List (Scalar × KextInfo)) (text : String) : Option Nat :=
  (entries.findIdx? fun entry => entry.1 == .string text).or
    (entries.findIdx? fun entry => entry.2.identifier == text)

/-- A kext is noted under its name, and under its identifier if this is not taken. -/
theorem find?_notePlace (places : List (Scalar × Nat)) (name : Scalar) (identifier : String)
    (place : Nat) (text : String) :
    Plist.Dictionary.find? (notePlace places name identifier place) text =
      if name = .string text then some place
      else (Plist.Dictionary.find? places text).or
        (if identifier = text then some place else none) := by
  have inserted := Plist.Dictionary.find?_insert places name place
  unfold notePlace
  dsimp only
  by_cases known : (Plist.Dictionary.find? (Plist.Dictionary.insert places name place)
      identifier).isSome = true
  · rw [if_pos known, inserted]
    by_cases named : name = .string text
    · rw [if_pos named, if_pos named]
    · rw [if_neg named, if_neg named]
      by_cases same : identifier = text
      · rw [same, inserted, if_neg named] at known
        rw [if_pos same, Option.or_of_isSome known]
      · rw [if_neg same, Option.or_none]
  · rw [if_neg known, Plist.Dictionary.find?_append, inserted]
    by_cases named : name = .string text
    · rw [if_pos named, if_pos named, Option.some_or]
    · rw [if_neg named, if_neg named]
      by_cases same : identifier = text <;> simp [Plist.Dictionary.find?, same]

theorem place?_append (entries entries' : List (Scalar × KextInfo)) (text : String) :
    place? (entries ++ entries') text =
      ((entries.findIdx? fun entry => entry.1 == .string text).or
        ((entries'.findIdx? fun entry => entry.1 == .string text).map (· + entries.length))).or
      ((entries.findIdx? fun entry => entry.2.identifier == text).or
        ((entries'.findIdx? fun entry => entry.2.identifier == text).map
          (· + entries.length))) := by
  rw [place?, List.findIdx?_append, List.findIdx?_append]

/-- After some entries of a table, the places of texts are those among these entries. -/
theorem find?_notePlaces (rest : List (Scalar × KextInfo)) {places : List (Scalar × Nat)}
    {entries : List (Scalar × KextInfo)}
    (distinct : Plist.Dictionary.Distinct (entries ++ rest))
    (known : ∀ text, Plist.Dictionary.find? places text = place? entries text) (text : String) :
    Plist.Dictionary.find? (notePlaces places entries.length rest) text =
      place? (entries ++ rest) text := by
  induction rest generalizing places entries with
  | nil =>
    rw [List.append_nil]
    exact known text
  | cons entry rest ih =>
    obtain ⟨name, info⟩ := entry
    have apart := fun other (member : other ∈ entries) => distinct.apart member
    have split : entries ++ (name, info) :: rest = (entries ++ [(name, info)]) ++ rest := by
      rw [List.append_assoc, List.singleton_append]
    have longer : entries.length + 1 = (entries ++ [(name, info)]).length := by
      rw [List.length_append, List.length_singleton]
    rw [split] at distinct ⊢
    rw [notePlaces, longer]
    apply ih distinct
    intro text
    rw [find?_notePlace, known, place?_append]
    by_cases named : name = .string text
    · -- The name would otherwise be a key twice.
      have earlier : entries.findIdx? (fun entry => entry.1 == .string text) = none := by
        refine List.findIdx?_eq_none_iff.mpr fun other member => ?_
        have differs := apart other member
        rw [named] at differs
        rw [beq_eq_false_iff_ne]
        intro same
        rw [(Scalar.sameKey_string other.1 text).mpr same] at differs
        exact Bool.noConfusion differs
      simp [earlier, named]
    · simp [named, place?, Option.or_assoc]

/-- The place of a name is that of the entry with this name. -/
theorem findIdx?_name_eq_some {table : KextTable} {text : String} {place : Nat} :
    (table.entries.findIdx? fun entry => entry.1 == .string text) = some place ↔
      ∃ info, table.entries[place]? = some (.string text, info) := by
  rw [List.findIdx?_eq_some_iff_getElem]
  constructor
  · rintro ⟨inside, found, _⟩
    refine ⟨table.entries[place].2, ?_⟩
    rw [List.getElem?_eq_getElem inside, ← beq_iff_eq.mp found]
  · rintro ⟨info, found⟩
    obtain ⟨inside, same⟩ := List.getElem?_eq_some_iff.mp found
    refine ⟨inside, by simp [same], fun earlier before taken => ?_⟩
    have distinct := List.pairwise_iff_getElem.mp table.distinct earlier place
      (by rw [List.length_map]; exact Nat.lt_trans before inside) (by rwa [List.length_map]) before
    rw [List.getElem_map, List.getElem_map, same, beq_iff_eq.mp taken] at distinct
    rw [(Scalar.sameKey_string _ text).mpr rfl] at distinct
    exact Bool.noConfusion distinct

/-- The places of a table are those that it resolves texts to. -/
theorem place?_eq_some {table : KextTable} {text : String} {place : Nat} :
    place? table.entries text = some place ↔ table.Resolves text place := by
  rw [place?, Option.or_eq_some_iff, findIdx?_name_eq_some]
  apply or_congr_right
  rw [List.findIdx?_eq_none_iff, List.findIdx?_eq_some_iff_getElem]
  apply and_congr
  · simp
  · constructor
    · rintro ⟨inside, found, first⟩
      refine ⟨⟨_, List.getElem?_eq_getElem inside, beq_iff_eq.mp found⟩, ?_⟩
      intro earlier before entry at_ same
      obtain ⟨_, rfl⟩ := List.getElem?_eq_some_iff.mp at_
      exact first earlier before (beq_iff_eq.mpr same)
    · rintro ⟨⟨entry, found, same⟩, first⟩
      obtain ⟨inside, rfl⟩ := List.getElem?_eq_some_iff.mp found
      refine ⟨inside, beq_iff_eq.mpr same, fun earlier before taken => ?_⟩
      have within := Nat.lt_trans before inside
      exact first earlier before _ (List.getElem?_eq_getElem within) (beq_iff_eq.mp taken)

/-- A text has a place after a kext table if the table resolves it. -/
theorem find?_notePlaces_eq_some {table : KextTable} {text : String} {place : Nat} :
    Plist.Dictionary.find? (notePlaces [] 0 table.entries) text = some place ↔
      table.Resolves text place := by
  have noted : Plist.Dictionary.find?
      (notePlaces [] ([] : List (Scalar × KextInfo)).length table.entries) text =
        place? ([] ++ table.entries) text :=
    find?_notePlaces table.entries (by simpa using table.distinct) (fun _ => rfl) text
  rw [List.length_nil, List.nil_append] at noted
  rw [noted, place?_eq_some]

end Compile

namespace Resource.KextTable

end Resource.KextTable

end CodecTables
