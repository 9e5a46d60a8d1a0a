import CodecTables.Compile.Rule
import Mathlib.Data.List.Induction

/-!
# Given names

A name is a stem and a number in decimal. It is given for one stem and one number only, unless a
stem prolongs another one by digits (`eq_or_prolongs_of_name_eq`), and then the two stems do have a
name in common (`Prolongs.name_eq`). A stem that does not end in a digit prolongs no other, so names
of different stems of this kind or of different numbers differ (`name_inj`). The names of the tables
do not end in a digit, so they differ from all names that are given out (`not_isPlain_name`). Arrays
of bytes and all other arrays have stems of their own.
-/

namespace CodecTables.Compile.NameSupply

/-- The text does not end in a digit. -/
def isPlain (text : String) : Bool := !text.toList.getLast?.any Char.isDigit

/-- All stems of names. -/
def stems : List String :=
  ["tree", "kextPath", "file", "patchBuf", "codecMod", "layouts", "platforms", "patches",
    "revisions"]

/-- A stem does not end in a digit. -/
theorem isPlain_of_mem_stems {stem : String} (member : stem ∈ stems) : isPlain stem = true := by
  revert stem
  decide

/-- A count is spelled by its digits. -/
theorem toList_count (n : Nat) : (Text.count n).toList = Nat.toDigits 10 n := by
  simp [Text.count, Text.decimal, Text.padded, Text.signOf, Text.decimalDigits]

/-- A name is spelled by its stem and the digits of its index. -/
theorem toList_name (stem : String) (index : Nat) :
    (name stem index).toList = stem.toList ++ Nat.toDigits 10 index := by
  rw [name, String.toList_append, toList_count]

/-- The digits of an index are digits. -/
theorem isDigit_of_mem_count {index : Nat} {c : Char} (member : c ∈ Nat.toDigits 10 index) :
    c.isDigit = true :=
  Nat.isDigit_of_mem_toDigits (by decide) (by decide) member

/-- A given name ends in a digit. -/
theorem not_isPlain_name (stem : String) (index : Nat) : isPlain (name stem index) = false := by
  have last : ∃ c, (name stem index).toList.getLast? = some c ∧ c ∈ Nat.toDigits 10 index := by
    rw [toList_name, List.getLast?_append, List.getLast?_eq_some_getLast Nat.toDigits_ne_nil]
    exact ⟨_, rfl, List.getLast_mem _⟩
  obtain ⟨c, ends, digit⟩ := last
  simp [isPlain, ends, isDigit_of_mem_count digit]

/-- A plain text is no name that is given out. -/
theorem ne_name_of_isPlain {text : String} (plain : isPlain text = true) (stem : String)
    (index : Nat) : text ≠ name stem index := by
  rintro rfl
  rw [not_isPlain_name] at plain
  exact Bool.false_ne_true plain

/-- Indices differ in their digits. -/
theorem toDigits_inj {n m : Nat} : Nat.toDigits 10 n = Nat.toDigits 10 m ↔ n = m := by
  constructor
  · intro same
    calc n = Nat.ofDigitChars 10 (Nat.toDigits 10 n) 0 := Nat.ofDigitChars_ten_toDigits.symm
      _ = Nat.ofDigitChars 10 (Nat.toDigits 10 m) 0 := by rw [same]
      _ = m := Nat.ofDigitChars_ten_toDigits
  · rintro rfl
    rfl

/-- The leading digits of a number are those of a positive number, if there are others behind. -/
theorem exists_toDigits_of_append {front back : List Char} {n : Nat} (leads : front ≠ [])
    (follows : back ≠ []) (whole : Nat.toDigits 10 n = front ++ back) :
    ∃ m, 0 < m ∧ front = Nat.toDigits 10 m := by
  -- the digits behind are taken off one by one from the end, each a division by ten
  induction back using List.reverseRecOn generalizing n with
  | nil => exact absurd rfl follows
  | append_singleton back c ih =>
    rw [Nat.toDigits_eq_if (by decide)] at whole
    split at whole
    · have length := congrArg List.length whole
      have positive := List.length_pos_iff.mpr leads
      simp only [List.length_append, List.length_singleton] at length
      omega
    · have shorter : Nat.toDigits 10 (n / 10) = front ++ back := by
        rw [← List.append_assoc] at whole
        exact List.append_inj_left' whole rfl
      by_cases last : back = []
      · refine ⟨n / 10, by omega, ?_⟩
        rw [shorter, last, List.append_nil]
      · exact ih last shorter

/-- The first stem is the other one with the digits of a positive number behind it. -/
def Prolongs (stem other : String) : Prop := ∃ n, 0 < n ∧ stem = name other n

/-- The first name of a stem that prolongs another one is also a later name of the other one. -/
theorem Prolongs.name_eq {stem other : String} (prolongs : Prolongs stem other) :
    ∃ n, name stem 0 = name other n := by
  obtain ⟨n, positive, rfl⟩ := prolongs
  refine ⟨10 * n, String.toList_inj.mp ?_⟩
  have digits : Nat.toDigits 10 n ++ Nat.toDigits 10 0 = Nat.toDigits 10 (10 * n + 0) :=
    Nat.toDigits_append_toDigits (by decide) positive (by decide)
  rw [toList_name, toList_name, toList_name, List.append_assoc, digits, Nat.add_zero]

/-- A stem does not prolong itself. -/
theorem Prolongs.ne {stem other : String} (prolongs : Prolongs stem other) : stem ≠ other := by
  obtain ⟨n, _, rfl⟩ := prolongs
  intro same
  have digits : Nat.toDigits 10 n = [] := by
    simpa [toList_name] using congrArg String.toList same
  exact Nat.toDigits_ne_nil digits

/-- A stem that does not end in a digit prolongs no other. -/
theorem not_prolongs_of_isPlain {stem : String} (plain : isPlain stem = true) (other : String) :
    ¬ Prolongs stem other := by
  rintro ⟨n, _, same⟩
  exact ne_name_of_isPlain plain other n same

/-- If a longer stem gives the same name, it is the other one or prolongs it. -/
theorem eq_or_prolongs_of_append {stem other : String} {index index' : Nat} {behind : List Char}
    (longer : stem.toList = other.toList ++ behind)
    (digits : Nat.toDigits 10 index' = behind ++ Nat.toDigits 10 index) :
    stem = other ∧ index = index' ∨ Prolongs stem other := by
  by_cases same : behind = []
  · subst same
    rw [List.append_nil] at longer
    exact .inl ⟨String.toList_inj.mp longer, (toDigits_inj.mp digits).symm⟩
  · obtain ⟨n, positive, front⟩ := exists_toDigits_of_append same Nat.toDigits_ne_nil digits
    refine .inr ⟨n, positive, String.toList_inj.mp ?_⟩
    rw [longer, front, toList_name]

/-- The same name is given for one stem and number only, unless one stem prolongs the other. -/
theorem eq_or_prolongs_of_name_eq {stem stem' : String} {index index' : Nat}
    (same : name stem index = name stem' index') :
    (stem = stem' ∧ index = index') ∨ Prolongs stem stem' ∨ Prolongs stem' stem := by
  have lists := congrArg String.toList same
  rw [toList_name, toList_name] at lists
  rcases List.append_eq_append_iff.mp lists with ⟨behind, longer, digits⟩ | ⟨behind, longer, digits⟩
  · rcases eq_or_prolongs_of_append longer digits with ⟨rfl, rfl⟩ | prolongs
    · exact .inl ⟨rfl, rfl⟩
    · exact .inr (.inr prolongs)
  · rcases eq_or_prolongs_of_append longer digits with ⟨rfl, rfl⟩ | prolongs
    · exact .inl ⟨rfl, rfl⟩
    · exact .inr (.inl prolongs)

/-- Names of different stems or numbers differ. -/
theorem name_inj {stem stem' : String} {index index' : Nat} (plain : isPlain stem = true)
    (plain' : isPlain stem' = true) :
    name stem index = name stem' index' ↔ stem = stem' ∧ index = index' := by
  constructor
  · intro same
    rcases eq_or_prolongs_of_name_eq same with equal | prolongs | prolongs
    · exact equal
    · exact absurd prolongs (not_prolongs_of_isPlain plain _)
    · exact absurd prolongs (not_prolongs_of_isPlain plain' _)
  · rintro ⟨rfl, rfl⟩
    rfl

theorem isPlain_lookupTableName : isPlain lookupTableName = true := by decide

theorem isPlain_kextTable : isPlain defaultKextTable = true := by decide

theorem isPlain_vendorTableName : isPlain vendorTableName = true := by decide

theorem isPlain_controllerTableName : isPlain controllerTableName = true := by decide

/-- The name of the size of a table has no index. -/
theorem isPlain_sizeName (table : String) : isPlain (sizeName table) = true := by
  simp [isPlain, sizeName]

end CodecTables.Compile.NameSupply

namespace CodecTables.Compile

/-! ### Stems of arrays -/

/-- The stems of the names of arrays of bytes. -/
def byteStems : List String := ["file", "patchBuf"]

/-- The stems of all other names. -/
def otherStems : List String :=
  ["tree", "kextPath", "codecMod", "layouts", "platforms", "patches", "revisions"]

/-- A stem for arrays of bytes does not end in a digit. -/
theorem isPlain_of_mem_byteStems {stem : String} (member : stem ∈ byteStems) :
    NameSupply.isPlain stem = true := by
  revert stem
  decide

/-- A stem for other arrays does not end in a digit. -/
theorem isPlain_of_mem_otherStems {stem : String} (member : stem ∈ otherStems) :
    NameSupply.isPlain stem = true := by
  revert stem
  decide

/-- A stem for other arrays is none for arrays of bytes. -/
theorem notMem_byteStems {stem : String} (member : stem ∈ otherStems) : stem ∉ byteStems := by
  revert stem
  decide

theorem mem_stems_of_mem_byteStems {stem : String} (member : stem ∈ byteStems) :
    stem ∈ NameSupply.stems := by
  revert stem
  decide

theorem mem_stems_of_mem_otherStems {stem : String} (member : stem ∈ otherStems) :
    stem ∈ NameSupply.stems := by
  revert stem
  decide

/-- The text may name an array that is not of bytes. -/
def NamesOther (name : String) : Prop :=
  ∃ stem ∈ otherStems, ∃ index, name = NameSupply.name stem index

end CodecTables.Compile
