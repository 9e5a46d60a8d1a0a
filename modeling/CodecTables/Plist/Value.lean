import CodecTables.Data.Calendar
import CodecTables.Data.Double
import CodecTables.Text.Quoted

/-!
# Property list values

A property list holds scalars, arrays and dictionaries. A dictionary is a list of pairs in the order
in which its keys came first; its keys are scalars, of any kind in the binary format and strings in
the written one.
-/

namespace CodecTables.Plist

/-- The kinds of a value. -/
inductive Kind where
  | null
  | bool
  | int
  | real
  | string
  | data
  | date
  | uid
  | array
  | dict
deriving DecidableEq, Repr

namespace Kind

/-- Every kind. -/
def all : List Kind := [null, bool, int, real, string, data, date, uid, array, dict]

/-- The word for a kind in a message. -/
def word : Kind → String
  | null => "NoneType"
  | bool => "bool"
  | int => "int"
  | real => "float"
  | string => "str"
  | data => "bytes"
  | date => "datetime"
  | uid => "UID"
  | array => "list"
  | dict => "dict"

/-- The kind that a word is for. -/
def ofWord? (w : String) : Option Kind := all.find? fun kind => kind.word == w

/-- Several kinds, as a message lists them. -/
def words (kinds : List Kind) : String := " or ".intercalate (kinds.map word)

end Kind

/-- A real number, as the bits of a binary file or as the text of a written one. What is not a
number is the same only as itself, and has the number of its object in the file. -/
inductive Real where
  | double (value : Data.Double)
  | nan (object : Nat)
  | written (text : String)
deriving DecidableEq

/-- A value without parts. -/
inductive Scalar where
  | null
  | bool (value : Bool)
  | int (value : Int)
  | real (value : Real)
  | string (text : String)
  | data (bytes : List UInt8)
  | date (moment : Data.Moment)
  | uid (number : Nat)
deriving DecidableEq

namespace Scalar

/-- The kind of a value without parts. -/
def kind : Scalar → Kind
  | null => .null
  | bool _ => .bool
  | int _ => .int
  | real _ => .real
  | string _ => .string
  | data _ => .data
  | date _ => .date
  | uid _ => .uid

/-- The amount of a boolean or an integer. -/
def amount? : Scalar → Option Int
  | bool value => some (if value then 1 else 0)
  | int value => some value
  | _ => none

/-- Two scalars are the same key: numbers, booleans among them, by their amount and all others by
kind and content. -/
def sameKey (a b : Scalar) : Bool :=
  match a, b with
  | real (.double x), real (.double y) => x.same y
  | real (.double x), b => (b.amount?.map x.equalsInt).getD false
  | a, real (.double y) => (a.amount?.map y.equalsInt).getD false
  | a, b =>
    match a.amount?, b.amount? with
    | some m, some n => m == n
    | none, none => a == b
    | _, _ => false

/-- A boolean as messages show it. -/
def boolText (b : Bool) : String := if b then "True" else "False"

/-- A scalar as messages show it. -/
def shown : Scalar → String
  | null => "None"
  | bool value => boolText value
  | int value => Text.decimal value
  | real (.double x) => x.text
  | real (.nan _) => Data.Double.nan.text
  | real (.written text) => text
  | string text => Text.quoted text
  | data bytes => Text.quotedBytes bytes
  | date moment =>
    "datetime.datetime(" ++ ", ".intercalate (moment.parts.map Text.count) ++ ")"
  | uid number => "UID(" ++ Text.count number ++ ")"

/-- A scalar as messages show it, unless it has too many digits. -/
def shown? (s : Scalar) : Except Text.Excess String :=
  match s with
  | int value => Text.decimal? value
  | s => .ok s.shown

/-- A scalar as plain text: a string without quotes, a date in digits, all else as messages show
it. -/
def plain : Scalar → String
  | string text => text
  | date moment =>
    moment.iso " "
  | s => s.shown

end Scalar

/-- A value of a property list: one without parts, a row of values, or a dictionary. -/
inductive Value where
  | scalar (s : Scalar)
  | array (items : List Value)
  | dict (entries : List (Scalar × Value))

namespace Value

/-- The value that stands for nothing. -/
abbrev null : Value := scalar .null

/-- A truth value. -/
abbrev bool (value : Bool) : Value := scalar (.bool value)

/-- An integer. -/
abbrev int (value : Int) : Value := scalar (.int value)

/-- A text. -/
abbrev string (text : String) : Value := scalar (.string text)

/-- A row of bytes. -/
abbrev data (bytes : List UInt8) : Value := scalar (.data bytes)

/-- The kind of a value. -/
def kind : Value → Kind
  | scalar s => s.kind
  | array _ => .array
  | dict _ => .dict

instance : Inhabited Value := ⟨null⟩

end Value

namespace Dictionary

variable {α : Type}

/-- Stores a value under a key. A key that is there keeps its place; a new one comes last. -/
def insert (entries : List (Scalar × α)) (key : Scalar) (value : α) : List (Scalar × α) :=
  match entries with
  | [] => [(key, value)]
  | (k, v) :: rest =>
    if k.sameKey key then (k, value) :: rest else (k, v) :: insert rest key value

/-- The dictionary of a list of pairs, where a later pair overrides an earlier one. -/
def ofPairs (pairs : List (Scalar × α)) : List (Scalar × α) :=
  pairs.foldl (fun entries pair => insert entries pair.1 pair.2) []

/-- No two entries have the same key. -/
def Distinct (entries : List (Scalar × α)) : Prop :=
  (entries.map Prod.fst).Pairwise fun a b => a.sameKey b = false

instance (entries : List (Scalar × α)) : Decidable (Distinct entries) :=
  inferInstanceAs (Decidable (List.Pairwise _ _))

/-- The value under a key that is a text. -/
def find? (entries : List (Scalar × α)) (key : String) : Option α :=
  (entries.find? fun entry => entry.1 == .string key).map Prod.snd

/-- The first key that an earlier entry has already. -/
def repeated? (entries : List (Scalar × α)) : Option Scalar :=
  go [] entries
where
  /-- Looks for a key among those seen before. -/
  go (seen : List Scalar) : List (Scalar × α) → Option Scalar
    | [] => none
    | (key, _) :: rest =>
      if seen.any (·.sameKey key) then some key else go (seen ++ [key]) rest

/-- Storing a value adds at most its own key, after all others. -/
theorem map_fst_insert (entries : List (Scalar × α)) (key : Scalar) (value : α) :
    (insert entries key value).map Prod.fst =
      if entries.any (·.1.sameKey key) then entries.map Prod.fst
      else entries.map Prod.fst ++ [key] := by
  induction entries with
  | nil => simp [insert]
  | cons entry rest ih =>
    obtain ⟨k, v⟩ := entry
    by_cases h : k.sameKey key
    · simp [insert, h]
    · simp only [insert, h, Bool.false_eq_true, ↓reduceIte, List.map_cons, ih, List.any_cons,
        Bool.false_or]
      split <;> simp

theorem distinct_insert {entries : List (Scalar × α)} (h : Distinct entries) (key : Scalar)
    (value : α) : Distinct (insert entries key value) := by
  rw [Distinct, map_fst_insert]
  split
  · exact h
  · next absent =>
    refine List.pairwise_append.mpr ⟨h, by simp, fun a ha b hb => ?_⟩
    obtain ⟨entry, member, rfl⟩ := List.mem_map.mp ha
    rw [List.mem_singleton.mp hb]
    simp only [List.any_eq_true, not_exists, not_and, Bool.not_eq_true] at absent
    exact absent entry member

theorem distinct_foldl_insert (pairs : List (Scalar × α)) {entries : List (Scalar × α)}
    (h : Distinct entries) :
    Distinct (pairs.foldl (fun entries pair => insert entries pair.1 pair.2) entries) := by
  induction pairs generalizing entries with
  | nil => exact h
  | cons pair rest ih => exact ih (distinct_insert h pair.1 pair.2)

/-- A dictionary made of pairs has distinct keys. -/
theorem distinct_ofPairs (pairs : List (Scalar × α)) : Distinct (ofPairs pairs) :=
  distinct_foldl_insert pairs List.Pairwise.nil

end Dictionary

end CodecTables.Plist
