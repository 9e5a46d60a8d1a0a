/-!
# Code pages

Encodings in which every byte is a character of its own, or none. A page is looked up by one of its
names; neither case nor the marks between the words of a name count.
-/

namespace CodecTables.Text

/-- An encoding of one byte for each character, with the names that it answers to. -/
structure Codepage where
  /-- The names of the page, which hold no point. -/
  names : List String
  /-- Other names, in which a point may stand for an underscore. -/
  aliases : List String
  /-- The characters of the last bytes, with a question mark where a byte has none. All bytes before
  them are the code points of their characters. -/
  last : String
deriving DecidableEq

namespace Codepage

/-- The number of characters that a page has room for, one for each byte. -/
def size : Nat := 256

/-- The characters of all bytes. -/
def characters (page : Codepage) : Array (Option Char) :=
  let last := page.last.toList.map fun c => if c = '?' then none else some c
  ((List.range (size - last.length)).map (some ∘ Char.ofNat) ++ last).toArray

/-- The characters that bytes stand for, if each of them has one in the page. -/
def decode? (page : Codepage) (bytes : List UInt8) : Option (List Char) :=
  let characters := page.characters
  bytes.mapM fun b => (characters[b.toNat]?).join

/-- A character of the words of a name. -/
def isWordChar (c : Char) : Bool := c.isAlphanum || c == '.'

/-- The words of a name in lower case, where `word` holds the last one so far, backwards. -/
def wordsAfter (word : List Char) : List Char → List (List Char)
  | [] => if word.isEmpty then [] else [word.reverse]
  | c :: rest =>
    if isWordChar c then wordsAfter (c.toLower :: word) rest
    else if word.isEmpty then wordsAfter [] rest
    else word.reverse :: wordsAfter [] rest

/-- A name in lower case with an underscore between its words. -/
def key (name : String) : String :=
  "_".intercalate ((wordsAfter [] name.toList).map String.ofList)

/-- The first page that answers to a name; its other names are tried before its own. -/
def ofName? (pages : List Codepage) (name : String) : Option Codepage :=
  let key := key name
  let plain := key.map fun c => if c = '.' then '_' else c
  pages.find? (·.aliases.contains key) <|> pages.find? (·.aliases.contains plain) <|>
    pages.find? (·.names.contains key)

end Codepage

end CodecTables.Text
