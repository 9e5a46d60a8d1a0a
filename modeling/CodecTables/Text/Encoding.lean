import CodecTables.Text.Codepage

/-!
# Character encodings

Texts in files are sequences of bytes in one of a few encodings. A sequence that an encoding does
not allow is refused as a whole.
-/

namespace CodecTables.Text

/-- The encodings that a text can be stored in. -/
inductive Encoding where
  | utf8
  | utf16 (bigEndian : Bool)
  | latin1
  | ascii
  | page (p : Codepage)
deriving DecidableEq

/-- The bytes of a text in UTF-8. -/
def encodeUtf8 (s : String) : List UInt8 := s.toUTF8.toList

/-- The characters that bytes stand for in UTF-8, if they are a text at all. -/
def decodeUtf8? (bytes : List UInt8) : Option (List Char) :=
  (String.fromUTF8? bytes.toByteArray).map String.toList

/-- Pairs of bytes to units of sixteen bits. -/
def units? (bigEndian : Bool) : List UInt8 → Option (List Nat)
  | [] => some []
  | [_] => none
  | a :: b :: rest =>
    let unit := if bigEndian then 256 * a.toNat + b.toNat else a.toNat + 256 * b.toNat
    (units? bigEndian rest).map (unit :: ·)

/-- A unit that begins a pair. -/
def isLeadUnit (unit : Nat) : Bool := 0xd800 ≤ unit && unit < 0xdc00

/-- A unit that ends a pair. -/
def isTrailUnit (unit : Nat) : Bool := 0xdc00 ≤ unit && unit < 0xe000

/-- The character of a pair of units; only the low ten bits of the second one count. -/
def pairedChar (lead trail : Nat) : Char :=
  Char.ofNat (0x10000 + (lead - 0xd800) * 0x400 + trail % 0x400)

/-- Units to characters. A pair must end in a unit that `ends` accepts. -/
def charsOfUnits? (ends : Nat → Bool) : List Nat → Option (List Char)
  | [] => some []
  | unit :: rest =>
    if isTrailUnit unit then none
    else if isLeadUnit unit then
      match rest with
      | trail :: rest =>
        if ends trail then (charsOfUnits? ends rest).map (pairedChar unit trail :: ·) else none
      | [] => none
    else (charsOfUnits? ends rest).map (Char.ofNat unit :: ·)

/-- Reads a whole text. In UTF-16 documents any unit ends a pair. -/
def Encoding.decode? : Encoding → List UInt8 → Option (List Char)
  | utf8, bytes => decodeUtf8? bytes
  | utf16 bigEndian, bytes => (units? bigEndian bytes).bind (charsOfUnits? fun _ => true)
  | latin1, bytes => some (bytes.map fun b => Char.ofNat b.toNat)
  | ascii, bytes =>
    if bytes.all (· < 0x80) then some (bytes.map fun b => Char.ofNat b.toNat) else none
  | page p, bytes => p.decode? bytes

/-- The characters of a text as far as they are in ASCII, each unit by itself. -/
def Encoding.outline : Encoding → List UInt8 → List Char
  | utf16 bigEndian, a :: b :: rest =>
    let unit := if bigEndian then 256 * a.toNat + b.toNat else a.toNat + 256 * b.toNat
    Char.ofNat unit :: outline (utf16 bigEndian) rest
  | utf16 _, _ => []
  | _, bytes => bytes.map fun b => Char.ofNat b.toNat

end CodecTables.Text
