import CodecTables.Plist.Value

/-!
# Numbered objects

Objects that refer to their parts by number stand for values. An object is read once, however many
others refer to it. A container may hold itself: its value is then unfolded to a depth at which no
use of it looks.
-/

namespace CodecTables.Plist

/-- An object before its parts are read. -/
inductive Object where
  | scalar (s : Scalar)
  | array (items : List Nat)
  | dict (keys values : List Nat)

/-- How far the reading of an object has come. -/
inductive Progress where
  | unread
  /-- The parts of a container are being read; the value stands for it inside itself. -/
  | begun (inside : Value)
  | done (value : Value)

/-- How far the reading of all objects has come, and whether a container was met inside itself. -/
structure Survey where
  progress : Array Progress
  circular : Bool

namespace Survey

/-- The survey of a file before any object is read. -/
def start (count : Nat) : Survey := ⟨Array.replicate count .unread, false⟩

/-- The value of an object that is read already. -/
def value? (s : Survey) (number : Nat) : Option Value :=
  match s.progress[number]? with
  | some (.done value) => some value
  | _ => none

/-- Notes how far the reading of an object has come. -/
def note (s : Survey) (number : Nat) (progress : Progress) : Survey :=
  { s with progress := s.progress.setIfInBounds number progress }

end Survey

/-- A step of reading objects, which may fail. -/
abbrev Walk := StateT Survey Option

namespace Object

/-- The value of an object, which is noted as read. -/
def finish (number : Nat) (value : Value) : Walk Value := do
  modify (·.note number (.done value))
  return value

/-- The value of an object by its number. So many levels of containers may follow, of which an array
takes three and a dictionary one; a key of a dictionary is a scalar. -/
def value? (object? : Nat → Option Object) (inside : Nat → Option Value) : Nat → Nat → Walk Value
  | room, number => do
    match (← get).progress[number]? with
    | none => failure
    | some (.done value) => return value
    | some (.begun value) =>
      modify fun s => { s with circular := true }
      return value
    | some .unread =>
      match ← object? number with
      | .scalar s => finish number (.scalar s)
      | .array items =>
        match room with
        | room + 3 =>
          modify (·.note number (.begun ((inside number).getD (.array []))))
          finish number (.array (← items.mapM fun part => value? object? inside room part))
        | _ => failure
      | .dict keys values =>
        match room with
        | room + 1 =>
          modify (·.note number (.begun ((inside number).getD (.dict []))))
          let pairs ← (keys.zip values).mapM fun (key, value) => do
            let value ← value? object? inside room value
            match ← value? object? inside room key with
            | .scalar key => return (key, value)
            | _ => failure
          finish number (.dict (Dictionary.ofPairs pairs))
        | 0 => failure

/-- The levels that containers may take. -/
def maxRoom : Nat := 982

/-- The value of the top object, in which a container that holds itself is unfolded so many
times. -/
def unfolded? (object? : Nat → Option Object) (count top : Nat) : Nat → Option (Value × Survey)
  | 0 => (value? object? (fun _ => none) maxRoom top).run (.start count)
  | times + 1 => do
    let (value, survey) ← unfolded? object? count top times
    if survey.circular then
      (value? object? survey.value? maxRoom top).run (.start count)
    else return (value, survey)

/-- How often a container that holds itself is unfolded. -/
def unfoldings : Nat := 8

/-- The value of the object at the top. -/
def read? (object? : Nat → Option Object) (count top : Nat) : Option Value :=
  (unfolded? object? count top unfoldings).map Prod.fst

end Object

end CodecTables.Plist
