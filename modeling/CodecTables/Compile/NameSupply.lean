import CodecTables.Text.Numeral

/-!
# Fresh names

A name is a stem and a number. Every stem has a counter of its own, which starts at zero and goes up
by one with each name, whatever is asked for other stems (`NameSupply.index_advance`).
-/

namespace CodecTables.Compile

/-- The counters of the stems that were used, in the order of their first use. -/
structure NameSupply where
  counters : List (String × Nat)

namespace NameSupply

/-- The supply from which no name was taken. -/
def empty : NameSupply := ⟨[]⟩

/-- The number that a stem is given next. -/
def index (supply : NameSupply) (stem : String) : Nat := (supply.counters.lookup stem).getD 0

/-- Moves the counter of a stem on by one. -/
def bump (stem : String) : List (String × Nat) → List (String × Nat)
  | [] => [(stem, 1)]
  | (s, n) :: rest => if s = stem then (s, n + 1) :: rest else (s, n) :: bump stem rest

/-- The supply after the next number of a stem was given out. -/
def advance (supply : NameSupply) (stem : String) : NameSupply := ⟨bump stem supply.counters⟩

theorem lookup_bump (stem s : String) (counters : List (String × Nat)) :
    (bump stem counters).lookup s =
      if s = stem then some ((counters.lookup stem).getD 0 + 1) else counters.lookup s := by
  induction counters with
  | nil =>
    by_cases same : s = stem
    · simp [bump, same]
    · simp [bump, List.lookup_cons, same, beq_false_of_ne same]
  | cons entry rest ih =>
    obtain ⟨t, n⟩ := entry
    by_cases found : t = stem
    · by_cases same : s = stem
      · simp [bump, found, same]
      · simp [bump, List.lookup_cons, found, same, beq_false_of_ne same]
    · by_cases here : s = t
      · subst here
        simp [bump, found]
      · have differs : (s == t) = false := beq_false_of_ne here
        have later : (stem == t) = false := beq_false_of_ne (Ne.symm found)
        simp [bump, found, List.lookup_cons, differs, later, ih]

/-- The counter of one stem goes up by one and no other counter moves. -/
theorem index_advance (supply : NameSupply) (stem s : String) :
    (supply.advance stem).index s = supply.index s + if s = stem then 1 else 0 := by
  by_cases same : s = stem <;> simp [index, advance, lookup_bump, same]

/-- The supply after so many numbers of a stem were given out. -/
def advanceBy (supply : NameSupply) (stem : String) (count : Nat) : NameSupply :=
  count.repeat (·.advance stem) supply

/-- A stem with an index after it. -/
def name (stem : String) (index : Nat) : String := stem ++ Text.count index

/-- Gives out the next number of a stem. -/
def nextIndex (supply : NameSupply) (stem : String) : Nat × NameSupply :=
  (supply.index stem, supply.advance stem)

/-- The next name of a stem, and the supply once it is taken. -/
def next (supply : NameSupply) (stem : String) : String × NameSupply :=
  (name stem (supply.index stem), supply.advance stem)

end NameSupply

end CodecTables.Compile
