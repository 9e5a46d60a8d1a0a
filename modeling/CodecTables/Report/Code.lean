import CodecTables.Text.Numeral

/-!
# Error codes

Every fault has a numbered code, which belongs to a phase of the work and has a summary. The number
alone makes the code.
-/

namespace CodecTables.Report

/-- The phases in which a fault can arise. -/
inductive Phase where
  | load
  | compile
  | output
  | internal
deriving DecidableEq, Repr

namespace Phase

/-- Every phase, in order. -/
def all : List Phase := [load, compile, output, internal]

/-- The name of a phase. -/
def name : Phase → String
  | load => "load"
  | compile => "compile"
  | output => "output"
  | internal => "internal"

/-- The phase of a name. -/
def ofName? (s : String) : Option Phase := all.find? fun phase => phase.name == s

end Phase

/-- The code of a fault: its number, its phase and what it stands for. -/
structure Code where
  number : Int
  phase : Phase
  summary : String

namespace Code

/-- The text of a code: its number in at least four places, of which a sign takes one. -/
def text (c : Code) : String :=
  "RESGEN-" ++ String.ofList (Text.padded Text.decimalDigits 4 c.number)

/-- A code as its own expression. -/
def shown (c : Code) : String :=
  "ErrorCode('" ++ c.text ++ "', " ++ c.phase.name.map Char.toUpper ++ ")"

/-- Codes are equal if their numbers are. -/
instance : BEq Code := ⟨fun a b => a.number == b.number⟩

/-- The bucket that a code is looked for in: the remainder of its number, with its sign, by a large
prime. The buckets -1 and -2 are one. -/
def bucket (c : Code) : Int :=
  let remainder := c.number.tmod 2305843009213693951
  if remainder = -1 then -2 else remainder

/-- Equal codes are in one bucket. -/
theorem bucket_eq_of_beq {a b : Code} (h : (a == b) = true) : a.bucket = b.bucket := by
  have same : a.number = b.number := of_decide_eq_true h
  simp [bucket, same]

/-- A text is the code in words. -/
def isText (c : Code) (s : String) : Bool := c.text == s

/-- A table cannot be read. -/
def tableUnreadable : Code := ⟨1001, .load, "configuration table cannot be read"⟩

/-- A table is no property list, or not one of the right form. -/
def tableMalformed : Code := ⟨1002, .load, "configuration table cannot be decoded"⟩

/-- A field is missing that has to be there. -/
def missingKey : Code := ⟨1003, .load, "required key is missing"⟩

/-- A value has the wrong kind, or a label is unknown. -/
def invalidValue : Code := ⟨1004, .load, "value has the wrong type or is unknown"⟩

/-- The two sides of a patch differ in length. -/
def invalidPatch : Code := ⟨1005, .load, "find and replace differ in length"⟩

/-- A codec bundle cannot be loaded. -/
def invalidBundle : Code := ⟨1006, .load, "codec bundle is not valid"⟩

/-- A patch is for a kext that no table declares. -/
def unknownKext : Code := ⟨2001, .compile, "patch targets an undeclared kext"⟩

/-- The source cannot be written. -/
def writeFailed : Code := ⟨3001, .output, "generated source cannot be written"⟩

/-- Nothing more is known of the fault. -/
def internalError : Code := ⟨9001, .internal, "internal error"⟩

/-- All codes by their names, in the order of the names. -/
def named : List (String × Code) :=
  [("INTERNAL_ERROR", internalError), ("INVALID_BUNDLE", invalidBundle),
    ("INVALID_PATCH", invalidPatch), ("INVALID_VALUE", invalidValue),
    ("MISSING_KEY", missingKey), ("TABLE_MALFORMED", tableMalformed),
    ("TABLE_UNREADABLE", tableUnreadable), ("UNKNOWN_KEXT", unknownKext),
    ("WRITE_FAILED", writeFailed)]

/-- The code of a name. -/
def ofName? (s : String) : Option Code := (named.find? fun entry => entry.1 == s).map Prod.snd

end Code

end CodecTables.Report
