import CodecTables.Data.Base64
import CodecTables.Plist.Value
import CodecTables.Text.RealText
import CodecTables.Xml.Document

/-!
# Written property lists

The XML form of a property list. Elements named for a kind of value add a value where they end, to
the array or dictionary that is open or as the whole list. All other elements count only by what
they hold.
-/

namespace CodecTables.Plist.Written

open Xml (Event)

/-- An array or dictionary that is not complete; the items of an array come latest first. -/
inductive Container where
  | array (items : List Value)
  | dict (entries : List (Scalar × Value))

/-- Where a value goes: to be the whole list, after the items of an array, or under a key. -/
inductive Slot where
  | root
  | item
  | entry (key : String)

/-- A container with the slot that it will fill. -/
structure Frame where
  container : Container
  slot : Slot

/-- The state of reading: the open containers, the key that waits for its value, the whole list so
far and the text since the last tag that matters. -/
structure Builder where
  frames : List Frame
  key : Option String
  root : Value
  text : List Char

namespace Builder

/-- The builder before the first event. -/
def start : Builder := ⟨[], none, .null, []⟩

/-- The slot of the next value, and the state once the slot is taken. A waiting key has its value in
a dictionary; without one, values are items of an array or the whole list. -/
def claim? (b : Builder) : Option (Slot × Builder) :=
  match b.key, b.frames with
  | some key, ⟨.dict _, _⟩ :: _ => some (.entry key, { b with key := none })
  | none, [] => some (.root, b)
  | none, ⟨.array _, _⟩ :: _ => some (.item, b)
  | _, _ => none

/-- Fills a slot of the innermost container, or the whole list. -/
def fill (b : Builder) (slot : Slot) (value : Value) : Builder :=
  match slot, b.frames with
  | .item, ⟨.array items, outer⟩ :: frames =>
    { b with frames := ⟨.array (value :: items), outer⟩ :: frames }
  | .entry key, ⟨.dict entries, outer⟩ :: frames =>
    { b with frames := ⟨.dict (Dictionary.insert entries (.string key) value), outer⟩ :: frames }
  | .root, _ => { b with root := value }
  | _, _ => b

/-- The builder with a value in the next free slot. -/
def add? (b : Builder) (value : Value) : Option Builder := do
  let (slot, b) ← b.claim?
  return b.fill slot value

/-- The builder with a container opened in the next free slot. -/
def open? (b : Builder) (container : Container) : Option Builder := do
  let (slot, b) ← b.claim?
  return { b with frames := ⟨container, slot⟩ :: b.frames }

/-- The builder with the innermost container closed and filled in. -/
def close? (b : Builder) : Option Builder :=
  match b.frames with
  | [] => none
  | ⟨container, slot⟩ :: frames =>
    let value := match container with
      | .array items => Value.array items.reverse
      | .dict entries => Value.dict entries
    some ({ b with frames := frames }.fill slot value)

/-- A key waits for its value, other than the empty key, which counts as none here. -/
def isWaiting (b : Builder) : Bool := b.key.any (!·.isEmpty)

/-- The builder with the text read so far as the next key of a dictionary. -/
def takeKey? (b : Builder) : Option Builder :=
  match b.frames with
  | ⟨.dict _, _⟩ :: _ =>
    if b.isWaiting then none
    else some { b with key := some (String.ofList b.text), text := [] }
  | _ => none

/-- Takes the text as a value that `read` makes of it. -/
def take? (b : Builder) (read : List Char → Option Scalar) : Option Builder := do
  let value ← read b.text
  { b with text := [] }.add? (.scalar value)

end Builder

/-! ### Scalars -/

/-- An integer, in hexadecimal after the mark `0x`. -/
def integer? (text : List Char) : Option Scalar :=
  (match text with
    | '0' :: 'x' :: rest => Text.readHexadecimal? rest
    | '0' :: 'X' :: rest => Text.readHexadecimal? rest
    | text => Text.readInteger? text).map Scalar.int

/-- A real number, kept as it is written. -/
def real? (text : List Char) : Option Scalar :=
  if Text.isRealText text then some (.real (.written (String.ofList text))) else none

/-- So many ASCII digits, as a number. -/
def digits? (n : Nat) (cs : List Char) : Option (Nat × List Char) :=
  let ds := cs.take n
  if ds.length = n ∧ ds.all Char.isDigit then
    some (ds.foldl (fun value c => 10 * value + (c.toNat - 48)) 0, cs.drop n)
  else none

/-- The parts of a date, from two digits after each mark, as far as they go. -/
def dateParts : List Char → List Char → List Nat × List Char
  | [], cs => ([], cs)
  | mark :: marks, cs =>
    match cs with
    | [] => ([], cs)
    | c :: rest =>
      if c = mark then
        match digits? 2 rest with
        | some (part, rest) => let (parts, rest) := dateParts marks rest; (part :: parts, rest)
        | none => ([], cs)
      else ([], cs)

/-- A date: a year and at least the month and the day, then as many parts of the time of day as
there are, ended by the letter Z. What follows does not count. -/
def date? (text : List Char) : Option Scalar := do
  let (year, rest) ← digits? 4 text
  let (parts, rest) := dateParts ['-', '-', 'T', ':', ':'] rest
  if rest.head? ≠ some 'Z' ∨ parts.length < 2 then none
  else
    let part (i : Nat) : Nat := parts.getD i 0
    (Data.Moment.ofParts? ⟨year, part 0, part 1, part 2, part 3, part 4, 0⟩).map Scalar.date

/-! ### Documents -/

/-- The builder after the opening tag of an element. -/
def begin? (b : Builder) (name : List Char) : Option Builder :=
  let b := { b with text := [] }
  match String.ofList name with
  | "dict" => b.open? (.dict [])
  | "array" => b.open? (.array [])
  | _ => some b

/-- The builder after the closing tag of an element. -/
def finish? (b : Builder) (name : List Char) : Option Builder :=
  match String.ofList name with
  | "dict" => if b.isWaiting then none else b.close?
  | "array" => b.close?
  | "key" => b.takeKey?
  | "true" => b.add? (.bool true)
  | "false" => b.add? (.bool false)
  | "integer" => b.take? integer?
  | "real" => b.take? real?
  | "string" => b.take? fun text => some (.string (String.ofList text))
  | "data" => b.take? fun text => (Data.Base64.decode? text).map Scalar.data
  | "date" => b.take? date?
  | _ => some b

/-- The builder after an event. -/
def step? (b : Builder) : Event → Option Builder
  | .start name => begin? b name
  | .finish name => finish? b name
  | .text chars => some { b with text := b.text ++ chars }

/-- The property list of a document; null if nothing was added. -/
def ofEvents? (events : List Event) : Option Value :=
  (events.foldlM step? Builder.start).map Builder.root

/-- The value that a written file stands for. -/
def read? (bytes : List UInt8) : Option Value := (Xml.events? bytes).bind ofEvents?

end CodecTables.Plist.Written
