import CodecTables.Xml.Scan

/-!
# Document types

The type of a document names its root, may refer to an outside file, which is not read, and may
hold declarations. Element, attribute and notation declarations are checked for their form and
count for nothing else. An entity declaration is refused, unless it repeats a predefined entity or
comes after a reference to declarations that were left unread.
-/

namespace CodecTables.Xml

variable (alphabet : Alphabet)

/-- The text stands at a character of the list. -/
def standsAt (ends : List Char) (cs : List Char) : Bool := cs.head?.any ends.contains

/-- A name or a word in a declaration, which ends at a blank or a mark of the grammar. -/
def word? (cs : List Char) : Option (List Char × List Char) := do
  let (word, rest) ← name? alphabet cs
  if standsAt [' ', '\t', '\n', '\r', '>', ')', ',', '|', '[', '?', '*', '+'] rest then
    return (word, rest)
  else none

/-- A word that is not followed by a sign of repetition. -/
def plainWord? (cs : List Char) : Option (List Char × List Char) := do
  let (word, rest) ← word? alphabet cs
  if standsAt ['?', '*', '+'] rest then none else return (word, rest)

/-- At least one blank, then what follows. -/
def spaced? (cs : List Char) : Option (List Char) :=
  if cs.head?.any isSpace then some (skipSpace cs) else none

/-- A literal in a declaration, which ends before a blank, a bracket or the end. -/
def ended? (cs : List Char) : Option (List Char × List Char) := do
  let (text, rest) ← literal? cs
  if standsAt [' ', '\t', '\n', '\r', '>', '['] rest then return (text, rest) else none

/-- A character of a public identifier. -/
def isPublicChar (c : Char) : Bool :=
  c.isAlphanum || " \n\r-'()+,./:=?;!*#@$_%".toList.contains c

/-- A public identifier, which has public characters only. -/
def publicId? (cs : List Char) : Option (List Char × List Char) := do
  let (text, rest) ← ended? cs
  if text.all isPublicChar then return (text, rest) else none

/-- The end of a declaration after optional blanks. -/
def closed? (cs : List Char) : Option (List Char) := after? ">" (skipSpace cs)

/-- The reference to an outside file after its first word; a public one may lack its system part
where `lone` says so. -/
def outside? (lone : Bool) (word : List Char) (cs : List Char) : Option (List Char) :=
  if word = "SYSTEM".toList then do
    let (_, rest) ← ended? (← spaced? cs)
    return rest
  else if word = "PUBLIC".toList then do
    let (_, rest) ← publicId? (← spaced? cs)
    match ended? (skipSpace rest) with
    | some (_, rest) => return rest
    | none => if lone && (closed? rest).isSome then return rest else none
  else none

/-! ### Element declarations -/

/-- What follows a mark of repetition, if there is one. -/
def repetition : List Char → List Char
  | c :: rest => if c = '?' ∨ c = '*' ∨ c = '+' then rest else c :: rest
  | [] => []

/-- A closing parenthesis is followed by a sign of repetition, a blank or a mark of the grammar. -/
def closingFollowed (cs : List Char) : Bool :=
  standsAt ['?', '*', '+', ' ', '\t', '\n', '\r', '>', ',', '|', ')'] cs

/-- The names of a mixed content model, up to its end. -/
def mixed? : Nat → Bool → List Char → Option (List Char)
  | 0, _, _ => none
  | fuel + 1, named, cs =>
    match skipSpace cs with
    | ')' :: '*' :: rest => closed? rest
    | ')' :: rest => if named then none else closed? rest
    | '|' :: rest => do
      let (_, rest) ← plainWord? alphabet (skipSpace rest)
      mixed? fuel true rest
    | _ => none

/-- A content model with the dividers of its open groups, at an item or after one. -/
def children? : Nat → List (Option Char) → Bool → List Char → Option (List Char)
  | 0, _, _, _ => none
  | fuel + 1, groups, atItem, cs =>
    if atItem then
      match skipSpace cs with
      | '(' :: rest => children? fuel (none :: groups) true rest
      | rest => do
        let (_, rest) ← word? alphabet rest
        children? fuel groups false (repetition rest)
    else
      match skipSpace cs, groups with
      | ')' :: rest, _ :: outer =>
        if !closingFollowed rest then none
        else if outer.isEmpty then closed? (repetition rest)
        else children? fuel outer false (repetition rest)
      | c :: rest, divider :: outer =>
        if (c = ',' ∨ c = '|') ∧ (divider.isNone ∨ divider = some c) then
          children? fuel (some c :: outer) true rest
        else none
      | _, _ => none

/-- What follows the declaration of an element. -/
def element? (cs : List Char) : Option (List Char) := do
  let (_, rest) ← plainWord? alphabet (← spaced? cs)
  let rest ← spaced? rest
  match rest with
  | '(' :: inside =>
    match after? "#PCDATA" (skipSpace inside) with
    | some tail =>
      if standsAt [' ', '\t', '\n', '\r', ')', '|'] tail then
        mixed? alphabet cs.length false tail
      else none
    | none => children? alphabet cs.length [none] true inside
  | _ => do
    let (word, rest) ← plainWord? alphabet rest
    if word = "EMPTY".toList ∨ word = "ANY".toList then closed? rest else none

/-! ### Attribute declarations -/

/-- The types of an attribute that are single words. -/
def attributeTypes : List String :=
  ["CDATA", "ID", "IDREF", "IDREFS", "ENTITY", "ENTITIES", "NMTOKEN", "NMTOKENS"]

/-- The values of an enumeration, read by `item`, up to its closing parenthesis. -/
def enumeration? (item : List Char → Option (List Char × List Char)) :
    Nat → List Char → Option (List Char)
  | 0, _ => none
  | fuel + 1, cs => do
    let (_, rest) ← item (skipSpace cs)
    match skipSpace rest with
    | ')' :: rest => if closingFollowed rest then return rest else none
    | '|' :: rest => enumeration? item fuel rest
    | _ => none

/-- What follows the type of an attribute. -/
def attributeType? (cs : List Char) : Option (List Char) :=
  match cs with
  | '(' :: rest => enumeration? (nameToken? alphabet) cs.length rest
  | _ => do
    let (word, rest) ← plainWord? alphabet cs
    if word = "NOTATION".toList then
      let rest ← spaced? rest
      let rest ← after? "(" rest
      enumeration? (plainWord? alphabet) cs.length rest
    else if attributeTypes.contains (String.ofList word) then return rest
    else none

/-- The default of an attribute; its value is checked where `checks` holds. -/
def attributeDefault? (checks : List Char → Bool) (cs : List Char) : Option (List Char) :=
  let quotedValue (cs : List Char) : Option (List Char) := do
    let (value, rest) ← ended? cs
    if checks value then return rest else none
  match cs with
  | '#' :: rest => do
    let (word, rest) ← name? alphabet rest
    if standsAt [' ', '\t', '\n', '\r', '>'] rest then
      if word = "IMPLIED".toList ∨ word = "REQUIRED".toList then return rest
      else if word = "FIXED".toList then quotedValue (skipSpace rest)
      else none
    else none
  | _ => quotedValue cs

/-- The attributes of a declaration, up to its end. -/
def attributes? (checks : List Char → Bool) : Nat → List Char → Option (List Char)
  | 0, _ => none
  | fuel + 1, cs =>
    match closed? cs with
    | some rest => some rest
    | none => do
      let (_, rest) ← plainWord? alphabet (← spaced? cs)
      let rest ← attributeType? alphabet (← spaced? rest)
      let rest ← attributeDefault? alphabet checks (← spaced? rest)
      attributes? checks fuel rest

/-- What follows the declaration of the attributes of an element. -/
def attributeList? (checks : List Char → Bool) (cs : List Char) : Option (List Char) := do
  let (_, rest) ← plainWord? alphabet (← spaced? cs)
  attributes? alphabet checks cs.length rest

/-! ### Notation and entity declarations -/

/-- What follows the declaration of a notation. -/
def notationDecl? (cs : List Char) : Option (List Char) := do
  let (_, rest) ← plainWord? alphabet (← spaced? cs)
  let (word, rest) ← plainWord? alphabet (← spaced? rest)
  closed? (← outside? true word rest)

/-- The value of an entity has complete references and none to a parameter entity. -/
def isEntityValue : List Char → Bool
  | [] => true
  | '%' :: _ => false
  | '&' :: rest => (reference? alphabet rest).isSome && isEntityValue rest
  | _ :: rest => isEntityValue rest

/-- The definition of an entity, up to its end; its value is checked where `counts` holds. -/
def definition? (counts general : Bool) (cs : List Char) : Option (List Char) :=
  match ended? cs with
  | some (value, rest) => if !counts || isEntityValue alphabet value then closed? rest else none
  | none => do
    let (word, rest) ← plainWord? alphabet cs
    let rest ← outside? false word rest
    match closed? rest with
    | some rest => return rest
    | none =>
      let (word, rest) ← plainWord? alphabet (← spaced? rest)
      if general ∧ word = "NDATA".toList then
        let (_, rest) ← plainWord? alphabet (← spaced? rest)
        closed? rest
      else none

/-- An entity declaration after its keyword: whether it declares a new entity, and the text after
it. Its value is checked where `counts` holds. -/
def entity? (counts : Bool) (cs : List Char) : Option (Bool × List Char) := do
  match ← spaced? cs with
  | '%' :: rest =>
    let (_, rest) ← plainWord? alphabet (← spaced? rest)
    let rest ← definition? alphabet counts false (← spaced? rest)
    return (true, rest)
  | rest =>
    let (name, rest) ← plainWord? alphabet rest
    let rest ← definition? alphabet counts true (← spaced? rest)
    return ((predefined? name).isNone, rest)

/-! ### The whole type -/

/-- What a document type leaves unread: an outside file, and what a parameter entity would hold. -/
structure Unread where
  outside : Bool
  skipped : Bool

/-- The answer to undeclared entities after the parts that were left unread. -/
def Unread.leniency (u : Unread) (standalone : Bool) : Leniency :=
  ⟨u.outside || u.skipped, standalone⟩

/-- Declarations still count, unless one that was skipped may have changed their meaning. -/
def Unread.counts (u : Unread) (standalone : Bool) : Bool := !u.skipped || standalone

/-- The declarations inside a document type up to its closing bracket. -/
def subset? (standalone : Bool) : Nat → Unread → List Char → Option (Unread × List Char)
  | 0, _, _ => none
  | fuel + 1, unread, cs =>
    match skipSpace cs with
    | ']' :: rest => some (unread, rest)
    | '%' :: rest => do
      let (_, rest) ← name? alphabet rest
      let rest ← after? ";" rest
      subset? standalone fuel { unread with skipped := true } rest
    | '<' :: '!' :: '-' :: '-' :: rest => do
      subset? standalone fuel unread (← afterComment? rest)
    | '<' :: '?' :: rest => do
      subset? standalone fuel unread (← afterInstruction? alphabet rest)
    | '<' :: '!' :: rest => do
      let (keyword, rest) ← name? alphabet rest
      if keyword = "ELEMENT".toList then
        subset? standalone fuel unread (← element? alphabet rest)
      else if keyword = "ATTLIST".toList then
        let checks (value : List Char) : Bool :=
          !unread.counts standalone || isValue alphabet (unread.leniency standalone) value
        subset? standalone fuel unread (← attributeList? alphabet checks rest)
      else if keyword = "NOTATION".toList then
        subset? standalone fuel unread (← notationDecl? alphabet rest)
      else if keyword = "ENTITY".toList then
        let counts := unread.counts standalone
        let (isNew, rest) ← entity? alphabet counts rest
        if isNew && counts then none
        else subset? standalone fuel unread rest
      else none
    | _ => none

/-- A document type after its keyword: what it leaves unread, and the text after it. -/
def documentType? (standalone : Bool) (cs : List Char) : Option (Unread × List Char) := do
  let (_, rest) ← plainWord? alphabet (← spaced? cs)
  let (outside, rest) ← match plainWord? alphabet (skipSpace rest) with
    | some (word, tail) => (outside? false word tail).map (true, ·)
    | none => some (false, rest)
  match skipSpace rest with
  | '[' :: inside => do
    let (unread, rest) ← subset? alphabet standalone inside.length ⟨outside, false⟩ inside
    return (unread, ← closed? rest)
  | rest => return (⟨outside, false⟩, ← after? ">" rest)

end CodecTables.Xml
