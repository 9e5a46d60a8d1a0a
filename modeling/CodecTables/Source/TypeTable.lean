import CodecTables.Source.Node

/-!
# Struct types in use

A table of the struct types that a source uses, in the order of their first use, and the types that
every source may use.
-/

namespace CodecTables.Source

/-- The names of the struct types in use, each once. -/
structure TypeTable where
  structs : List String
  nodup : structs.Nodup := by simp

namespace TypeTable

/-- The table without types. -/
def empty : TypeTable := { structs := [] }

instance : Inhabited TypeTable := ⟨empty⟩

/-- The number of struct types in a table. -/
def size (table : TypeTable) : Nat := table.structs.length

/-- A struct type is in a table. -/
def contains (table : TypeTable) (name : String) : Bool := table.structs.contains name

/-- The test for a struct type is membership. -/
theorem contains_iff_mem {table : TypeTable} {name : String} :
    table.contains name = true ↔ name ∈ table.structs :=
  List.contains_iff_mem

/-- The table with a struct type in it, which is added if it is new. -/
def use (table : TypeTable) (name : String) : TypeTable :=
  if h : name ∈ table.structs then table
  else
    { structs := table.structs ++ [name]
      nodup := List.nodup_append.mpr
        ⟨table.nodup, by simp, by
          intro a ha b hb
          simp only [List.mem_singleton] at hb
          rintro rfl
          exact h (hb ▸ ha)⟩ }

theorem use_of_mem {table : TypeTable} {name : String} (present : name ∈ table.structs) :
    table.use name = table :=
  dif_pos present

theorem mem_use {table : TypeTable} {name s : String} :
    s ∈ (table.use name).structs ↔ s ∈ table.structs ∨ s = name := by
  unfold use
  split
  · next present => exact ⟨Or.inl, fun member => member.elim id fun same => same ▸ present⟩
  · simp

/-- The table with struct types in it, added one after the other. -/
def useAll (table : TypeTable) (names : List String) : TypeTable := names.foldl use table

theorem mem_useAll {names : List String} {table : TypeTable} {s : String} :
    s ∈ (table.useAll names).structs ↔ s ∈ table.structs ∨ s ∈ names := by
  induction names generalizing table with
  | nil => simp [useAll]
  | cons name names ih =>
    have first : table.useAll (name :: names) = (table.use name).useAll names := rfl
    rw [first, ih, mem_use, List.mem_cons, or_assoc]

end TypeTable

/-! ### Types -/

/-- The type of a byte. -/
def uint8 : Node := .uintType 8

/-- The type of a number of 32 bits. -/
def uint32 : Node := .uintType 32

/-- Characters by reference. -/
def stringType : Node := .pointerType .charType

/-- The type of an array of texts. -/
def stringArray : Node := .arrayType stringType

/-- The type of an array of bytes. -/
def byteArray : Node := .arrayType uint8

/-- Arrays of unsigned integers of the given width. -/
def uintArray (bits : Int) : Node := .arrayType (.uintType bits)

/-- The type of an array of a struct type. -/
def structArray (name : String) : Node := .arrayType (.structType name)

/-- The types that every source may use, by their names. -/
def builtins : List (String × Node) :=
  [("uint8", uint8), ("uint32", uint32), ("size", .sizeType), ("char", .charType),
    ("string", stringType), ("string_array", stringArray), ("bytes", byteArray)]

end CodecTables.Source
