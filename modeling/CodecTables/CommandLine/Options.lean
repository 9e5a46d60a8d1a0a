import CodecTables.CommandLine.Token
import CodecTables.CommandLine.Value
import CodecTables.Source.Writer

/-!
# The options of a call

The arguments are taken from left to right: a request for help or for the version, or a bad value,
ends the reading at once. Missing operands are noticed at the end, and arguments that are left over
after them.
-/

namespace CodecTables.CommandLine

open Data (Moment)

/-- What the arguments of a call ask for. -/
structure Options where
  directory : String
  /-- The output path; there is none if its operand was dropped. -/
  output : Option String
  verbosity : Nat
  /-- The indentation; there is none if its value was dropped. -/
  indent : Option String
  timestamp : Option Moment

/-- What a call is answered with when it asks for no source, or asks wrongly. -/
inductive Answer where
  | help
  | version
  | misuse (e : UsageError)
  | excess (e : Text.Excess)

/-- The answer to a bad value of an option. -/
def Answer.ofBadValue (switch : Switch) : BadValue → Answer
  | .refused reason => misuse (.badValue switch reason)
  | .excess e => excess e

/-- What the arguments read so far ask for. -/
structure Progress where
  operands : List (Option String) := []
  extras : List String := []
  verbosity : Nat := 0
  indent : Option String := some Source.Writer.defaultUnit
  timestamp : Option Moment := none

namespace Progress

/-- An operand is still missing. -/
def wantsOperand (p : Progress) : Bool := p.operands.length < operandNames.length

/-- Takes an operand together with a divider beside it. One `--` is dropped from them, be it the
divider or, where there is none, the operand itself. -/
def takeOperand (p : Progress) (texts : List String) : Progress :=
  { p with operands := p.operands ++ [(texts.erase "--").head?] }

/-- Keeps an argument that nothing asks for. -/
def takeExtra (p : Progress) (text : String) : Progress :=
  { p with extras := p.extras ++ [text] }

/-- Obeys an option without a value. -/
def takeSwitch (p : Progress) : Switch → Except Answer Progress
  | .help => .error .help
  | .version => .error .version
  | .verbose => .ok { p with verbosity := p.verbosity + 1 }
  | switch => .error (.misuse (.missingValue switch))

/-- Obeys an option with its value. The value `--` is dropped. -/
def takeValue (p : Progress) (switch : Switch) (value : String) : Except Answer Progress :=
  match switch with
  | .indent =>
    if value = "--" then .ok { p with indent := none }
    else do
      let indent ← (readIndent value).mapError (.ofBadValue switch)
      return { p with indent := some indent }
  | .timestamp =>
    if value = "--" then .ok { p with timestamp := none }
    else do
      let moment ← (readTimestamp value).mapError (.ofBadValue switch)
      return { p with timestamp := some moment }
  | switch => .error (.misuse (.unexpectedValue switch value))

/-- Takes the arguments of a call one by one. An operand takes a divider beside it along. -/
def takeAll (p : Progress) : List Token → Except Answer Progress
  | [] => .ok p
  | .long switch (some value) :: rest => do takeAll (← p.takeValue switch value) rest
  | .long switch none :: .operand value :: rest =>
    if switch.takesValue then do takeAll (← p.takeValue switch value) rest
    else do takeAll (← p.takeSwitch switch) (.operand value :: rest)
  | .long switch none :: rest => do takeAll (← p.takeSwitch switch) rest
  | .short switch letters :: rest => do
    let switches ← (switches switch letters).mapError .misuse
    takeAll (← switches.foldlM takeSwitch p) rest
  | .unknown text :: rest => takeAll (p.takeExtra text) rest
  | .operand text :: .divider :: rest =>
    if p.wantsOperand then takeAll (p.takeOperand [text, "--"]) rest
    else takeAll (p.takeExtra text) (.divider :: rest)
  | .divider :: .operand text :: rest =>
    if p.wantsOperand then takeAll (p.takeOperand ["--", text]) rest
    else takeAll (p.takeExtra "--") (.operand text :: rest)
  | .operand text :: rest =>
    takeAll (if p.wantsOperand then p.takeOperand [text] else p.takeExtra text) rest
  | .divider :: rest => takeAll (p.takeExtra "--") rest

/-- Checks at the end that every operand is there and nothing is left over. -/
def finish (p : Progress) : Except UsageError Options :=
  match p.operands with
  | [directory, output] =>
    if p.extras.isEmpty then
      .ok ⟨directory.getD "", output, p.verbosity, p.indent, p.timestamp⟩
    else .error (.unrecognized p.extras)
  | operands => .error (.missingOperands (operandNames.drop operands.length))

end Progress

/-- Reads the arguments of a call. -/
def Options.read (arguments : List String) : Except Answer Options := do
  let tokens ← (Token.ofArguments arguments).mapError .misuse
  let progress ← ({} : Progress).takeAll tokens
  progress.finish.mapError .misuse

end CodecTables.CommandLine
