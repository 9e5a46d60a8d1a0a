import CodecTables.Text.Encoding
import CodecTables.Text.KnownPage
import CodecTables.Xml.Scan

/-!
# The XML declaration

A document may begin with a declaration of its version, its encoding and whether it stands alone,
in that order. The first bytes and the declared encoding together fix the encoding of the rest.
-/

namespace CodecTables.Xml

open Text (Encoding)

/-- What the declaration at the head of a document says. -/
structure Declaration where
  encoding : Option String
  standalone : Bool

namespace Declaration

/-- What holds without a declaration. -/
def absent : Declaration := ⟨none, false⟩

/-- A character of a value in a declaration. -/
def isValueChar (c : Char) : Bool := c.isAlphanum || c == '.' || c == '-' || c == '_'

/-- One item `name = "value"` with blanks before it; nothing where only blanks are left. -/
def item? (cs : List Char) : Option (Option (String × String) × List Char) :=
  match cs with
  | [] => some (none, [])
  | c :: _ =>
    if !isSpace c then none
    else match skipSpace cs with
      | [] => some (none, [])
      | text => do
        let key := text.takeWhile fun c => !(isSpace c || c == '=')
        if key.isEmpty then none
        else
          let rest ← after? "=" (skipSpace (text.drop key.length))
          let (value, rest) ← literal? (skipSpace rest)
          if value.all isValueChar then
            return (some (String.ofList key, String.ofList value), rest)
          else none

/-- Reads whether the document stands alone, which is the last item. -/
def standalone? (encoding : Option String) : Option (String × String) → List Char →
    Option Declaration
  | none, _ => some ⟨encoding, false⟩
  | some (key, value), rest =>
    if key = "standalone" ∧ (value = "yes" ∨ value = "no") ∧ rest.all isSpace then
      some ⟨encoding, value == "yes"⟩
    else none

/-- The declaration between its brackets: a version, then at most an encoding and a word on whether
it stands alone. -/
def inside? (cs : List Char) : Option Declaration := do
  let (version, rest) ← item? cs
  if version.map Prod.fst ≠ some "version" then none
  else
    let (second, rest) ← item? rest
    match second with
    | some ("encoding", value) =>
      if value.toList.head?.any Char.isAlpha then
        let (third, rest) ← item? rest
        standalone? (some value) third rest
      else none
    | second => standalone? none second rest

/-- The text from the mark that ends the declaration. -/
def splitMark : List Char → List Char × List Char
  | [] => ([], [])
  | '?' :: '>' :: rest => ([], '?' :: '>' :: rest)
  | c :: rest => let (before, mark) := splitMark rest; (c :: before, mark)

/-- Reads the declaration at the beginning of a text, if it has one, and gives the text after it. -/
def read? (cs : List Char) : Option (Declaration × List Char) :=
  match after? "<?xml" cs with
  | some (c :: rest) =>
    if isSpace c || c == '?' then do
      let (inside, mark) := splitMark (c :: rest)
      let rest ← after? "?>" mark
      let declaration ← inside? inside
      return (declaration, rest)
    else some (absent, cs)
  | _ => some (absent, cs)

end Declaration

/-- The encoding that the first bytes show, and the bytes after the byte order mark. -/
def markedEncoding : List UInt8 → Encoding × List UInt8
  | 0xfe :: 0xff :: rest => (.utf16 true, rest)
  | 0xff :: 0xfe :: rest => (.utf16 false, rest)
  | 0xef :: 0xbb :: 0xbf :: rest => (.utf8, rest)
  | bytes => (.utf8, bytes)

/-- The encodings that every reader of XML knows, with the byte order where it is open. -/
def builtIn? (marked : Encoding) (name : String) : Option Encoding :=
  match name.map Char.toUpper with
  | "UTF-8" => some .utf8
  | "UTF-16" => some (if marked = .utf16 false then marked else .utf16 true)
  | "UTF-16BE" => some (.utf16 true)
  | "UTF-16LE" => some (.utf16 false)
  | "ISO-8859-1" => some .latin1
  | "US-ASCII" => some .ascii
  | _ => none

/-- An encoding is wide when its characters take two bytes or more. -/
def isWide : Encoding → Bool
  | .utf16 _ => true
  | _ => false

/-- The encoding of a document after its declaration. A built-in one may not contradict the first
bytes; a code page holds even where the declaration is in another encoding. -/
def settle? (marked : Encoding) : Option String → Option Encoding
  | none => some marked
  | some declared =>
    match builtIn? marked declared with
    | some encoding =>
      if isWide marked ∨ isWide encoding then
        if marked = encoding then some encoding else none
      else some encoding
    | none => (Text.Codepage.ofName? Text.Codepage.known declared).map .page

/-- The characters that names may have in a document of an encoding. -/
def alphabetOf : Encoding → Alphabet
  | .utf16 _ | .latin1 => .extended
  | _ => .plain

/-- The characters of a document and the letters of its names. The declaration is in ASCII, so that
it can be read before the encoding of the rest is known. -/
def characters? (bytes : List UInt8) : Option (Alphabet × List Char) := do
  let (marked, body) := markedEncoding bytes
  let outline := marked.outline body
  let (declaration, rest) ← Declaration.read? outline
  let encoding ← settle? marked declaration.encoding
  let opening := outline.take (outline.length - rest.length)
  let width := if isWide marked then 2 else 1
  let chars ← encoding.decode? (body.drop (width * opening.length))
  return (alphabetOf encoding, opening ++ chars)

end CodecTables.Xml
