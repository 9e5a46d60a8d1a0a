import CodecTables.Report.Fault
import CodecTables.Resource.Entity

/-!
# Refusals

Why a property list does not describe a resource. A refusal names the place in the list where it
was met.
-/

namespace CodecTables.Decode

open Plist (Kind Scalar)
open Report (Code Failure Fault)

/-- Why a table is refused, with the site of the value at fault. -/
inductive Refusal where
  | missingKey (site key : String)
  | wrongKind (site key : String) (expected : List Kind) (given : Kind)
  | notRecord (site : String) (given : Kind)
  | notArray (site : String) (given : Kind)
  | unknownLabel (site key message : String)
  | unequalPatch (find replace : Nat) (executable : String)
  /-- A kext by a name that an earlier kext has. -/
  | repeatedKext (name : Scalar)
  /-- A key that has no text to name its place by. -/
  | unspeakable (e : Text.Excess)

/-- How a refusal is reported. -/
def Refusal.failure : Refusal → Failure
  | missingKey site key => .fault
    { category := .load
      message := site ++ ": missing required key " ++ Text.quoted key
      code := .missingKey }
  | wrongKind site key expected given => .fault
    { category := .load
      message :=
        site ++ ": " ++ Text.quoted key ++ " must be " ++ Kind.words expected ++ ", got " ++
          given.word
      code := .invalidValue }
  | notRecord site given => .fault
    { category := .load
      message := site ++ ": expected a dictionary, got " ++ given.word
      code := .invalidValue }
  | notArray site given => .fault
    { category := .load
      message := site ++ ": expected an array, got " ++ given.word
      code := .invalidValue }
  | unknownLabel site key message => .fault
    { category := .load
      message := site ++ ": " ++ Text.quoted key ++ ": " ++ message
      code := .invalidValue }
  | unequalPatch find replace executable => .fault (.unequalPatch find replace executable)
  | repeatedKext name => .unexpected (Resource.KextTable.repeatedMessage name)
  | unspeakable e => .excess e

end CodecTables.Decode
