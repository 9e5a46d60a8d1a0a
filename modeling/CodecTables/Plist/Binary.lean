import CodecTables.Plist.Object
import CodecTables.Text.Encoding

/-!
# Binary property lists

The binary form numbers its objects. A trailer at the end of the file tells where the table of the
objects' places is, and arrays and dictionaries refer to their parts by number. All numbers are
unsigned and most significant byte first, unless noted.
-/

namespace CodecTables.Plist.Binary

/-- The content of a file, with access by place. -/
abbrev Bytes := Array UInt8

/-- So many bytes from a place on, all of which must be there. -/
def slice? (file : Bytes) (start length : Nat) : Option (List UInt8) :=
  if start + length ≤ file.size then some (file.extract start (start + length)).toList else none

/-- The number that bytes spell. -/
def number (bytes : List UInt8) : Nat := bytes.foldl (fun value b => 256 * value + b.toNat) 0

/-- The number that bytes spell in two's complement. -/
def signedNumber (bytes : List UInt8) : Int :=
  let value := number bytes
  if bytes.head?.any (0x80 ≤ ·) then value - Nat.pow 256 bytes.length else value

/-- The number in a field of a file, if the file holds the whole field. -/
def numberAt? (file : Bytes) (start width : Nat) : Option Nat :=
  (slice? file start width).map number

/-- So many numbers of the given width from a place on. The width is not zero. -/
def numbersAt? (file : Bytes) (start count width : Nat) : Option (List Nat) :=
  if width = 0 ∨ file.size < start + count * width then none
  else (List.range count).mapM fun i => numberAt? file (start + i * width) width

/-- What the trailer and the table say. -/
structure Layout where
  refSize : Nat
  offsets : Array Nat
  top : Nat

/-- The length of the trailer in bytes. -/
def trailerSize : Nat := 32

/-- The layout that the trailer of a file tells. -/
def layout? (file : Bytes) : Option Layout := do
  if file.size < trailerSize then none
  else
    let base := file.size - trailerSize
    let offsetSize ← numberAt? file (base + 6) 1
    let refSize ← numberAt? file (base + 7) 1
    let count ← numberAt? file (base + 8) 8
    let top ← numberAt? file (base + 16) 8
    let table ← numberAt? file (base + 24) 8
    let offsets ← numbersAt? file table count offsetSize
    return ⟨refSize, offsets.toArray, top⟩

/-- The count of an object with the given low half of its token, whose token is just before the
place, and the place after the count. A count from fifteen on is a number of its own, of one, two,
four or eight bytes. -/
def countAt? (file : Bytes) (low place : Nat) : Option (Nat × Nat) :=
  if low < 15 then some (low, place)
  else do
    let marker ← numberAt? file place 1
    let width := Nat.pow 2 (marker % 4)
    let count ← numberAt? file (place + 1) width
    return (count, place + 1 + width)

/-- A string of ASCII characters. -/
def asciiString? (bytes : List UInt8) : Option Scalar :=
  (Text.Encoding.ascii.decode? bytes).map fun cs => .string (String.ofList cs)

/-- A string of units of sixteen bits, in which surrogates stand in pairs. -/
def wideString? (bytes : List UInt8) : Option Scalar := do
  let units ← Text.units? true bytes
  let cs ← Text.charsOfUnits? Text.isTrailUnit units
  return .string (String.ofList cs)

/-- A date, in seconds from the epoch. -/
def date? (seconds : Data.Double) : Option Scalar := do
  let moment ← Data.Moment.ofMicroseconds? (← seconds.microseconds?)
  return .date moment

/-- So many bytes from a place on, as far as the file goes. -/
def upTo (file : Bytes) (start length : Nat) : List UInt8 :=
  (file.extract start (start + length)).toList

/-- An integer of so many bytes, as far as the file goes. Eight bytes and more are signed. -/
def integer (file : Bytes) (low place : Nat) : Scalar :=
  let bytes := upTo file place (Nat.pow 2 low)
  .int (if 3 ≤ low then signedNumber bytes else number bytes)

/-- A real number. What is not a number is told apart by the object that it is. -/
def real (object : Nat) (value : Data.Double) : Scalar :=
  .real (if value = .nan then .nan object else .double value)

/-- The object at a place of a file; its first byte tells what it is. -/
def objectAt? (file : Bytes) (layout : Layout) (object start : Nat) : Option Object := do
  let token ← numberAt? file start 1
  let place := start + 1
  let low := token % 16
  match token / 16 with
  | 0 =>
    match low with
    | 0 => some (.scalar .null)
    | 8 => some (.scalar (.bool false))
    | 9 => some (.scalar (.bool true))
    | 15 => some (.scalar (.data []))
    | _ => none
  | 1 => some (.scalar (integer file low place))
  | 2 =>
    match low with
    | 2 => do return .scalar (real object (.ofBits32 (← numberAt? file place 4)))
    | 3 => do return .scalar (real object (.ofBits64 (← numberAt? file place 8)))
    | _ => none
  | 3 =>
    if low = 3 then do
      return .scalar (← date? (.ofBits64 (← numberAt? file place 8)))
    else none
  | 4 => do
    let (count, place) ← countAt? file low place
    return .scalar (.data (← slice? file place count))
  | 5 => do
    let (count, place) ← countAt? file low place
    return .scalar (← asciiString? (← slice? file place count))
  | 6 => do
    let (count, place) ← countAt? file low place
    return .scalar (← wideString? (← slice? file place (2 * count)))
  | 8 =>
    let uid := number (upTo file place (low + 1))
    if uid < Nat.pow 2 64 then some (.scalar (.uid uid)) else none
  | 10 => do
    let (count, place) ← countAt? file low place
    return .array (← numbersAt? file place count layout.refSize)
  | 13 => do
    let (count, place) ← countAt? file low place
    let keys ← numbersAt? file place count layout.refSize
    let values ← numbersAt? file (place + count * layout.refSize) count layout.refSize
    return .dict keys values
  | _ => none

/-- The value at the top of a binary file, if all that it needs can be read. -/
def read? (bytes : List UInt8) : Option Value := do
  let file := bytes.toArray
  let layout ← layout? file
  let object? (object : Nat) : Option Object := do
    objectAt? file layout object (← layout.offsets[object]?)
  Object.read? object? layout.offsets.size layout.top

end CodecTables.Plist.Binary
