import CodecTables.Text.Quoted

/-!
# Options and usage errors

The options of the program, the texts that explain them, and what may be wrong with the arguments
of a call.
-/

namespace CodecTables.CommandLine

/-- The options of the program. -/
inductive Switch where
  | help
  | version
  | verbose
  | indent
  | timestamp
deriving DecidableEq, Repr

namespace Switch

/-- The spellings of all options, in the order in which the program lists them. -/
def spellings : List (String × Switch) :=
  [("-h", help), ("--help", help), ("--version", version), ("-v", verbose),
    ("--verbose", verbose), ("--indent", indent), ("--timestamp", timestamp)]

/-- How an error names an option: by all its spellings. -/
def label (switch : Switch) : String :=
  "/".intercalate ((spellings.filter fun entry => entry.2 == switch).map Prod.fst)

/-- An option is followed by a value. -/
def takesValue : Switch → Bool
  | indent | timestamp => true
  | _ => false

end Switch

/-- The operands that a call must have, in their order. -/
def operandNames : List String := ["<ResourceDirectory>", "<OutputPath>"]

/-- Why the arguments of a call are refused. -/
inductive UsageError where
  | ambiguous (argument : String) (candidates : List String)
  | unexpectedValue (switch : Switch) (value : String)
  | missingValue (switch : Switch)
  | badValue (switch : Switch) (reason : String)
  | missingOperands (names : List String)
  | unrecognized (arguments : List String)

/-- How a refusal is reported. -/
def UsageError.message : UsageError → String
  | ambiguous argument candidates =>
    "ambiguous option: " ++ argument ++ " could match " ++ ", ".intercalate candidates
  | unexpectedValue switch value =>
    "argument " ++ switch.label ++ ": ignored explicit argument " ++ Text.quoted value
  | missingValue switch => "argument " ++ switch.label ++ ": expected one argument"
  | badValue switch reason => "argument " ++ switch.label ++ ": " ++ reason
  | missingOperands names =>
    "the following arguments are required: " ++ ", ".intercalate names
  | unrecognized arguments => "unrecognized arguments: " ++ " ".intercalate arguments

/-- The name of the program. -/
def programName : String := "resgen"

/-- The answer to a request for the version. -/
def versionText : String := programName ++ " 0.1.0\n"

/-- The arguments of a call in short. -/
def usageText : String :=
  "usage: resgen [-h] [--version] [-v] [--indent INDENT] [--timestamp TIMESTAMP]\n" ++
  "              <ResourceDirectory> <OutputPath>\n"

/-- The answer to a request for help. -/
def helpText : String :=
  usageText ++
  "\n" ++
  "Compile an AppleALC resource directory (codec lookup, kext and\n" ++
  "controller tables plus codec bundles) into kern_resources.cpp.\n" ++
  "\n" ++
  "positional arguments:\n" ++
  "  <ResourceDirectory>   Directory holding CodecLookup.plist,\n" ++
  "                        Controllers.plist, Kexts.plist and the codec bundles.\n" ++
  "  <OutputPath>          Path of the C++ file to generate.\n" ++
  "\n" ++
  "options:\n" ++
  "  -h, --help            show this help message and exit\n" ++
  "  --version             show program's version number and exit\n" ++
  "  -v, --verbose         Increase verbosity (-v info, -vv debug).\n" ++
  "  --indent INDENT       Indentation: 'tab' (default) or a number of spaces.\n" ++
  "  --timestamp TIMESTAMP\n" ++
  "                        Fixed banner timestamp (yyyy.mm.dd HH:MM:SS) for\n" ++
  "                        reproducible output.\n"

/-- What a call with such an error prints. -/
def UsageError.report (e : UsageError) : String :=
  usageText ++ programName ++ ": error: " ++ e.message ++ "\n"

end CodecTables.CommandLine
