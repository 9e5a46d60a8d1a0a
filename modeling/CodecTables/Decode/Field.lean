import CodecTables.Decode.Refusal

/-!
# Fields of records

A record is a dictionary with known keys. A field has a kind; it is required, or it has a default
that holds where the key is absent. A value of another kind is refused also where the key is
optional, and a boolean is never an integer.
-/

namespace CodecTables.Decode

open Plist (Kind Scalar Value)

/-- The content of a dictionary. -/
abbrev Record := List (Scalar × Value)

/-- A kind of values with the content of a value of that kind. -/
structure Shape (α : Type) where
  kind : Kind
  read : Value → Option α

namespace Shape

/-- A truth value. -/
def bool : Shape Bool where
  kind := .bool
  read
    | .scalar (.bool b) => some b
    | _ => none

/-- An integer. -/
def int : Shape Int where
  kind := .int
  read
    | .scalar (.int n) => some n
    | _ => none

/-- A text. -/
def string : Shape String where
  kind := .string
  read
    | .scalar (.string s) => some s
    | _ => none

/-- A row of bytes. -/
def data : Shape (List UInt8) where
  kind := .data
  read
    | .scalar (.data bytes) => some bytes
    | _ => none

/-- A row of values. -/
def array : Shape (List Value) where
  kind := .array
  read
    | .array items => some items
    | _ => none

/-- A dictionary. -/
def dict : Shape Record where
  kind := .dict
  read
    | .dict entries => some entries
    | _ => none

end Shape

variable {α : Type}

/-- The content of a value, if it has the shape. -/
def checked (shape : Shape α) (value : Value) (key site : String) : Except Refusal α :=
  match shape.read value with
  | some content => .ok content
  | none => .error (.wrongKind site key [shape.kind] value.kind)

/-- The content of the field under a key, which has to be there. -/
def required (record : Record) (shape : Shape α) (key site : String) : Except Refusal α :=
  match Plist.Dictionary.find? record key with
  | some value => checked shape value key site
  | none => .error (.missingKey site key)

/-- The content of the field under a key, or a default if it is missing. -/
def optional (record : Record) (shape : Shape α) (key site : String) (default : α) :
    Except Refusal α :=
  match Plist.Dictionary.find? record key with
  | some value => checked shape value key site
  | none => .ok default

/-- The content of a value that has to be a dictionary. -/
def record (value : Value) (site : String) : Except Refusal Record :=
  match value with
  | .dict entries => .ok entries
  | value => .error (.notRecord site value.kind)

/-- The items of a value that has to be an array. -/
def items (value : Value) (site : String) : Except Refusal (List Value) :=
  match value with
  | .array items => .ok items
  | value => .error (.notArray site value.kind)

/-- The contents of values that are all of one shape. -/
def each (shape : Shape α) (values : List Value) (key site : String) : Except Refusal (List α) :=
  values.mapM fun value => checked shape value key site

/-- A place in an array. -/
def place (site : String) (index : Nat) : String := site ++ "[" ++ Text.count index ++ "]"

/-- Reads the values of an array one by one, each at its place. -/
def indexed (read : Value → String → Except Refusal α) (site : String) :
    Nat → List Value → Except Refusal (List α)
  | _, [] => .ok []
  | index, value :: rest => do
    let first ← read value (place site index)
    return first :: (← indexed read site (index + 1) rest)

/-- Refuses a value whose kind is none of the expected ones. A single kind is exact; among several,
an integer takes a boolean as well. -/
def checkKinds (exact : Bool) (expected : List Kind) (value : Value) (key site : String) :
    Except Refusal Value :=
  if expected.contains value.kind ∨ (!exact ∧ value.kind = .bool ∧ expected.contains .int) then
    .ok value
  else .error (.wrongKind site key expected value.kind)

end CodecTables.Decode
