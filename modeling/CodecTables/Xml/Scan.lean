import CodecTables.Text.Digit
import CodecTables.Xml.NameChar

/-!
# Parts of XML documents

The parts that stand in more than one place of a document: blanks, names, comments, processing
instructions, references and quoted values. Each reader takes the text from where its part begins,
and gives the text that follows it.
-/

namespace CodecTables.Xml

variable (alphabet : Alphabet)

/-- A character that a document may hold. -/
def isXmlChar (c : Char) : Bool :=
  c == '\t' || c == '\n' || c == '\r' || (' ' ≤ c && c ≠ '\ufffe' && c ≠ '\uffff')

/-- White space of XML. -/
def isSpace (c : Char) : Bool := c == ' ' || c == '\t' || c == '\n' || c == '\r'

/-- The text without the blanks at its beginning. -/
def skipSpace (cs : List Char) : List Char := cs.dropWhile isSpace

/-- The text after a literal beginning. -/
def after? (literal : String) (cs : List Char) : Option (List Char) :=
  List.isPrefixOf? literal.toList cs

/-- Every line break becomes a line feed. -/
def normalizeBreaks : List Char → List Char
  | [] => []
  | '\r' :: '\n' :: rest => '\n' :: normalizeBreaks rest
  | c :: rest => (if c = '\r' then '\n' else c) :: normalizeBreaks rest

/-- A name, and the text after it. -/
def name? : List Char → Option (List Char × List Char)
  | [] => none
  | c :: rest =>
    if alphabet.starts c then
      some (c :: rest.takeWhile alphabet.continues, rest.dropWhile alphabet.continues)
    else none

/-- A name token, which may begin with any character of a name. -/
def nameToken? (cs : List Char) : Option (List Char × List Char) :=
  let token := cs.takeWhile alphabet.continues
  if token.isEmpty then none else some (token, cs.dropWhile alphabet.continues)

/-- The text after a comment whose opening mark is behind. Two hyphens end it and nothing else. -/
def afterComment? : List Char → Option (List Char)
  | [] => none
  | '-' :: '-' :: rest => after? ">" rest
  | _ :: rest => afterComment? rest

/-- The text after the next closing mark of an instruction. -/
def afterMark? : List Char → Option (List Char)
  | [] => none
  | '?' :: '>' :: rest => some rest
  | _ :: rest => afterMark? rest

/-- The text after a processing instruction whose opening mark is behind. The target `xml`, in any
case, is kept for the declaration. -/
def afterInstruction? (cs : List Char) : Option (List Char) :=
  match name? alphabet cs with
  | none => none
  | some (target, rest) =>
    if target.map Char.toLower = ['x', 'm', 'l'] then none
    else match rest with
      | [] => none
      | c :: tail => if isSpace c then afterMark? tail else after? "?>" rest

/-- What a reference stands for. -/
inductive Reference where
  | char (c : Char)
  | entity (name : List Char)

/-- The character that one of the five predefined names stands for. -/
def predefined? (name : List Char) : Option Char :=
  if name = ['l', 't'] then some '<'
  else if name = ['g', 't'] then some '>'
  else if name = ['a', 'm', 'p'] then some '&'
  else if name = ['q', 'u', 'o', 't'] then some '"'
  else if name = ['a', 'p', 'o', 's'] then some '\''
  else none

/-- The character with a code point, if a document may hold it. -/
def charOfCode? (code : Nat) : Option Char :=
  if code.isValidChar && isXmlChar (Char.ofNat code) then some (Char.ofNat code) else none

/-- A reference by number in the given base, up to its semicolon. -/
def numbered? (base : Nat) (cs : List Char) : Option (Reference × List Char) :=
  let digits := (cs.takeWhile fun c => (Text.hexValue? c).any (· < base)).filterMap Text.hexValue?
  if digits.isEmpty then none
  else do
    let c ← charOfCode? (digits.foldl (fun value digit => base * value + digit) 0)
    let rest ← after? ";" (cs.drop digits.length)
    return (.char c, rest)

/-- A reference whose opening mark is behind. -/
def reference? : List Char → Option (Reference × List Char)
  | '#' :: 'x' :: rest => numbered? 16 rest
  | '#' :: rest => numbered? 10 rest
  | cs => do
    let (name, rest) ← name? alphabet cs
    let rest ← after? ";" rest
    return ((predefined? name).elim (.entity name) .char, rest)

/-- A document's answer to references that nothing declares: they are an error, unless parts of
its type were left unread, which may declare them. -/
structure Leniency where
  unread : Bool
  standalone : Bool

/-- Undeclared entities are passed over. -/
def Leniency.skips (l : Leniency) : Bool := l.unread && !l.standalone

/-- A reference that the document may hold. -/
def admits (l : Leniency) : Reference → Bool
  | .char _ => true
  | .entity _ => l.skips

/-- A quoted value has no opening bracket, and its references are complete and admitted. -/
def isValue (l : Leniency) : List Char → Bool
  | [] => true
  | '<' :: _ => false
  | '&' :: rest => (reference? alphabet rest).any (fun r => admits l r.1) && isValue l rest
  | _ :: rest => isValue l rest

/-- A text in quotes of either kind, and the text after it. -/
def literal? : List Char → Option (List Char × List Char)
  | [] => none
  | c :: rest =>
    if c = '"' ∨ c = '\'' then
      match rest.dropWhile (· ≠ c) with
      | [] => none
      | _ :: tail => some (rest.takeWhile (· ≠ c), tail)
    else none

end CodecTables.Xml
