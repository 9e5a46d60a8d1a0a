import CodecTables.Plist.Binary
import CodecTables.Plist.Written

/-!
# Property list files

The first bytes of a file tell its form: written in XML, in any of the encodings that can be told
from them, or binary.
-/

namespace CodecTables.Plist

/-- The two forms of a property list. -/
inductive Form where
  | written
  | binary
deriving DecidableEq

/-- ASCII characters in units of the given width and byte order. -/
def asciiUnits (wide bigEndian : Bool) (s : String) : List UInt8 :=
  s.toList.flatMap fun c =>
    let b := UInt8.ofNat c.toNat
    if !wide then [b] else if bigEndian then [0, b] else [b, 0]

/-- The ways in which a written list may begin. -/
def writtenBeginnings : List (List UInt8) :=
  ["<?xml", "<plist"].flatMap fun s =>
    [asciiUnits false false s, [0xef, 0xbb, 0xbf] ++ asciiUnits false false s,
      [0xfe, 0xff] ++ asciiUnits true true s, [0xff, 0xfe] ++ asciiUnits true false s]

/-- The beginning of a binary list. -/
def binaryBeginning : List UInt8 := asciiUnits false false "bplist00"

/-- The form of a file, as its first bytes tell it. -/
def form? (bytes : List UInt8) : Option Form :=
  if writtenBeginnings.any (·.isPrefixOf bytes) then some .written
  else if binaryBeginning.isPrefixOf bytes then some .binary
  else none

/-- Reads a property list file, or nothing where it is malformed. -/
def read? (bytes : List UInt8) : Option Value :=
  match form? bytes with
  | some .written => Written.read? bytes
  | some .binary => Binary.read? bytes
  | none => none

end CodecTables.Plist
