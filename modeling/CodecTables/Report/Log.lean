import CodecTables.Text.Numeral

/-!
# Log records
-/

namespace CodecTables.Report

/-- The levels of records, the least urgent first. -/
inductive Level where
  | debug
  | info
  | warning
  | error
deriving DecidableEq, Repr

namespace Level

/-- The name of a level, as a line of the log gives it. -/
def name : Level → String
  | debug => "DEBUG"
  | info => "INFO"
  | warning => "WARNING"
  | error => "ERROR"

/-- The urgency of a level. -/
def rank : Level → Nat
  | debug => 0
  | info => 1
  | warning => 2
  | error => 3

/-- The name of a level in exactly five characters. -/
def tag (l : Level) : String :=
  let cs := l.name.toList.take 5
  String.ofList (cs ++ List.replicate (5 - cs.length) ' ')

end Level

/-- The parts of the work that keep records. -/
inductive Source where
  | program
  | loader
  | compiler
deriving DecidableEq, Repr

/-- The name of a part of the program, as a line of the log gives it. -/
def Source.name : Source → String
  | program => "resgen"
  | loader => "resgen.loader"
  | compiler => "resgen.compiler"

/-- A record of the log. -/
structure Record where
  level : Level
  source : Source
  message : String

/-- The line of a record made at the given time of day. -/
def Record.line (time : String) (r : Record) : String :=
  time ++ " [" ++ r.level.tag ++ "] " ++ r.source.name ++ ": " ++ r.message

end CodecTables.Report
