import CodecTables.CommandLine.Usage
import CodecTables.Text.Digit

/-!
# Arguments of a call

An argument is an operand or an option by its form alone. A long option may be cut short as long as
only one option begins like that, and may carry a value after an equals sign; short options may
share one argument. After the divider `--` every argument is an operand.
-/

namespace CodecTables.CommandLine

/-- An argument by its form. -/
inductive Token where
  | operand (text : String)
  | divider
  /-- A long option and the value that is attached to it. -/
  | long (switch : Switch) (value : Option String)
  /-- A short option and what follows its letter. -/
  | short (switch : Switch) (rest : List Char)
  | unknown (text : String)

/-- Digits, at least one, up to the end of the text or a last line break. -/
def isDigitRun (cs : List Char) : Bool :=
  let rest := cs.dropWhile fun c => (Text.digitValue? c).isSome
  rest.length < cs.length && (rest.isEmpty || rest = ['\n'])

/-- What follows the minus of a negative number: digits with at most one point before some of
them. -/
def isMagnitude (cs : List Char) : Bool :=
  isDigitRun cs ||
    match cs.dropWhile fun c => (Text.digitValue? c).isSome with
    | '.' :: fraction => isDigitRun fraction
    | _ => false

/-- An argument that begins like an option and is none. One that reads as a negative number or holds
a blank is an operand. -/
def stray (text : String) : Token :=
  if isMagnitude (text.toList.drop 1) || text.toList.contains ' ' then .operand text
  else .unknown text

/-- The long option that an argument is the beginning of, with its value. -/
def longToken (text : String) : Except UsageError Token :=
  let name := text.toList.takeWhile (· ≠ '=')
  let value := (text.toList.dropWhile (· ≠ '=')).tail?.map String.ofList
  match Switch.spellings.filter fun entry => name.isPrefixOf entry.1.toList with
  | [] => .ok (stray text)
  | [(_, switch)] => .ok (.long switch value)
  | candidates => .error (.ambiguous text (candidates.map Prod.fst))

/-- The option that a single letter stands for. -/
def letter? (c : Char) : Option Switch := Switch.spellings.lookup (String.ofList ['-', c])

/-- The form of an argument before the divider. -/
def Token.ofArgument (text : String) : Except UsageError Token :=
  match text.toList with
  | '-' :: '-' :: _ => longToken text
  | '-' :: c :: rest =>
    match letter? c with
    | some switch => .ok (.short switch rest)
    | none => .ok (stray text)
  | _ => .ok (.operand text)

/-- The forms of the arguments of a call. -/
def Token.ofArguments : List String → Except UsageError (List Token)
  | [] => .ok []
  | text :: rest =>
    if text = "--" then .ok (.divider :: rest.map .operand)
    else do
      let token ← ofArgument text
      return token :: (← ofArguments rest)

/-- The options that share an argument. What follows the letter of a known option has to go on
with another one. -/
def cluster (switch : Switch) : List Char → Except UsageError (List Switch)
  | [] => .ok [switch]
  | c :: rest =>
    match letter? c with
    | some next => do return switch :: (← cluster next rest)
    | none => .error (.unexpectedValue switch (String.ofList (c :: rest)))

/-- The options of an argument with a short option and what follows its letter. One equals sign
before more letters does not count. -/
def switches (switch : Switch) : List Char → Except UsageError (List Switch)
  | ['='] => .error (.unexpectedValue switch "")
  | '=' :: rest => cluster switch rest
  | rest => cluster switch rest

end CodecTables.CommandLine
