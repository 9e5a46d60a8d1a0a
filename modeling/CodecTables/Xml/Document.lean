import CodecTables.Xml.Declaration
import CodecTables.Xml.DocumentType

/-!
# XML documents

A well-formed document is read into the beginnings and ends of its elements and the text between
them. Attributes are checked and dropped. A document that is not well-formed has no reading.
-/

namespace CodecTables.Xml

/-- What a document consists of, in its order. -/
inductive Event where
  | start (name : List Char)
  | finish (name : List Char)
  | text (chars : List Char)

/-- The text may not hold the mark that ends a character data section. -/
def lacksSectionEnd : List Char → Bool
  | [] => true
  | ']' :: ']' :: '>' :: _ => false
  | _ :: rest => lacksSectionEnd rest

/-- The characters up to the end of a section, and what follows it. -/
def section? : List Char → Option (List Char × List Char)
  | [] => none
  | ']' :: ']' :: '>' :: rest => some ([], rest)
  | c :: rest => (section? rest).map fun (inside, tail) => (c :: inside, tail)

variable (alphabet : Alphabet)

/-- The attributes of a tag up to its end: whether the tag also ends its element, and the text
after it. No attribute may stand twice. -/
def tagEnd? (leniency : Leniency) : Nat → List (List Char) → List Char →
    Option (Bool × List Char)
  | 0, _, _ => none
  | fuel + 1, seen, cs =>
    match skipSpace cs with
    | '>' :: rest => some (false, rest)
    | '/' :: '>' :: rest => some (true, rest)
    | _ => do
      let (name, rest) ← name? alphabet (← spaced? cs)
      let rest ← after? "=" (skipSpace rest)
      let (value, rest) ← literal? (skipSpace rest)
      if seen.contains name || !isValue alphabet leniency value then none
      else tagEnd? leniency fuel (name :: seen) rest

/-- The content of the open elements, the innermost first, up to the end of the last one. The
events come latest first. -/
def content? (leniency : Leniency) : Nat → List (List Char) → List Event → List Char →
    Option (List Event × List Char)
  | 0, _, _, _ => none
  | _ + 1, [], events, cs => some (events, cs)
  | fuel + 1, inner :: outer, events, cs =>
    match cs with
    | [] => none
    | '<' :: '!' :: '-' :: '-' :: rest => do
      content? leniency fuel (inner :: outer) events (← afterComment? rest)
    | '<' :: '!' :: rest => do
      let (inside, rest) ← section? (← after? "[CDATA[" rest)
      content? leniency fuel (inner :: outer) (.text inside :: events) rest
    | '<' :: '?' :: rest => do
      content? leniency fuel (inner :: outer) events (← afterInstruction? alphabet rest)
    | '<' :: '/' :: rest => do
      let (name, rest) ← name? alphabet rest
      if name = inner then
        content? leniency fuel outer (.finish name :: events) (← closed? rest)
      else none
    | '<' :: rest => do
      let (name, rest) ← name? alphabet rest
      let (ends, rest) ← tagEnd? alphabet leniency rest.length [] rest
      if ends then
        content? leniency fuel (inner :: outer) (.finish name :: .start name :: events) rest
      else content? leniency fuel (name :: inner :: outer) (.start name :: events) rest
    | '&' :: rest => do
      match ← reference? alphabet rest with
      | (.char c, rest) => content? leniency fuel (inner :: outer) (.text [c] :: events) rest
      | (.entity _, rest) =>
        if leniency.skips then content? leniency fuel (inner :: outer) events rest else none
    | _ =>
      let isText (c : Char) : Bool := c != '<' && c != '&'
      let run := cs.takeWhile isText
      if lacksSectionEnd run then
        content? leniency fuel (inner :: outer) (.text run :: events) (cs.dropWhile isText)
      else none

/-- What may follow the root element: blanks, comments and instructions. -/
def isEpilog : Nat → List Char → Bool
  | 0, _ => false
  | fuel + 1, cs =>
    match skipSpace cs with
    | [] => true
    | '<' :: '!' :: '-' :: '-' :: rest => (afterComment? rest).any (isEpilog fuel)
    | '<' :: '?' :: rest => (afterInstruction? alphabet rest).any (isEpilog fuel)
    | _ => false

/-- The root element and all that follows it. -/
def root? (leniency : Leniency) (cs : List Char) : Option (List Event) := do
  let (name, rest) ← name? alphabet cs
  let (ends, rest) ← tagEnd? alphabet leniency rest.length [] rest
  let opened := [.start name]
  let (events, rest) ←
    if ends then some (.finish name :: opened, rest)
    else content? alphabet leniency (rest.length + 1) [name] opened rest
  if isEpilog alphabet (rest.length + 1) rest then return events.reverse else none

/-- What comes before the root element, with the document type once at most, and the rest. -/
def prolog? (standalone : Bool) : Nat → Option Unread → List Char → Option (List Event)
  | 0, _, _ => none
  | fuel + 1, type, cs =>
    match skipSpace cs with
    | '<' :: '!' :: '-' :: '-' :: rest => do
      prolog? standalone fuel type (← afterComment? rest)
    | '<' :: '?' :: rest => do prolog? standalone fuel type (← afterInstruction? alphabet rest)
    | '<' :: '!' :: rest => do
      if type.isSome then none
      else
        let (unread, rest) ← documentType? alphabet standalone (← after? "DOCTYPE" rest)
        prolog? standalone fuel (some unread) rest
    | '<' :: rest => root? alphabet ((type.getD ⟨false, false⟩).leniency standalone) rest
    | _ => none

/-- The events of a document, if its characters and its structure allow it. -/
def document? (chars : List Char) : Option (List Event) := do
  if !chars.all isXmlChar then none
  else
    let (declaration, rest) ← Declaration.read? (normalizeBreaks chars)
    prolog? alphabet declaration.standalone rest.length none rest

/-- The events of the document that bytes stand for. -/
def events? (bytes : List UInt8) : Option (List Event) := do
  let (alphabet, chars) ← characters? bytes
  document? alphabet chars

end CodecTables.Xml
