import EditWaves.Json.Printer
import EditWaves.Text.Quoted

/-!
# What can be wrong with a mutation

`MutationError` lists the faults of building or applying a mutation, `DecodeError`
those of reading one from JSON.  The wording of each is in its `message`.
-/

namespace EditWaves

/-- A fault of a single mutation. -/
inductive MutationError where
  /-- The end of a range lies before its begin. -/
  | invalidRange (start stop : Nat)
  /-- A built-in type lacks a field. -/
  | missingField (tag field : String)
  /-- A field of a built-in type has the wrong shape. -/
  | malformedField (tag field reason : String)
  /-- The search pattern cannot be read. -/
  | invalidPattern (pattern : String)
  /-- A mutator was given a mutation of another type. -/
  | unexpectedKind (expected actual : String)
  /-- There is no room on the stack for one more plug-in. -/
  | overflow
deriving Repr, BEq, DecidableEq, Inhabited

namespace MutationError

/-- What stands for the reason why a pattern cannot be read. -/
def patternReason : String := "<regex error>"

/-- The wording of a fault. -/
def message : MutationError → String
  | invalidRange start stop =>
    s!"Invalid mutation range: end {stop} precedes begin {start}"
  | missingField tag field =>
    s!"Mutation of type '{tag}' is missing required field '{field}'"
  | malformedField tag field reason =>
    s!"Mutation of type '{tag}' has a malformed '{field}' field: {reason}"
  | invalidPattern pattern =>
    s!"Invalid search pattern '{pattern}': {patternReason}"
  | unexpectedKind expected actual =>
    s!"Mutator for '{expected}' cannot apply a '{actual}' mutation"
  | overflow => "stack overflow"

/-- The name of the kind of fault. -/
def kind : MutationError → String
  | invalidRange _ _ => "InvalidRange"
  | missingField _ _ => "MissingField"
  | malformedField _ _ _ => "MalformedField"
  | invalidPattern _ => "InvalidPattern"
  | unexpectedKind _ _ => "UnexpectedKind"
  | overflow => "Overflow"

end MutationError

/-- The shape of a value, as far as a message tells it. -/
inductive Found where
  | null
  | bool (b : Bool)
  | int (n : Int)
  | float (x : Decimal.Binary)
  | string (s : String)
  | sequence
  | map
deriving Repr, BEq, DecidableEq, Inhabited

/-- The wording of a shape; `float` writes floating point numbers. -/
def Found.describe (float : Decimal.Binary → String) : Found → String
  | null => "null"
  | bool true => "boolean `true`"
  | bool false => "boolean `false`"
  | int n => s!"integer `{n}`"
  | .float x => "floating point `" ++ float x ++ "`"
  | string s => "string " ++ Text.quoted s
  | sequence => "sequence"
  | map => "map"

/-- Why a JSON text or value is not what was asked for. -/
inductive DecodeError where
  /-- The text is no JSON text. -/
  | malformed
  | missing (field : String)
  | duplicate (field : String)
  | wrongType (found : Found) (expected : String)
  | wrongValue (found : Found) (expected : String)
  /-- An array stands for a structure and ends too early. -/
  | tooShort (length : Nat) (expected : String)
  /-- An array stands for a structure and has items left over. -/
  | tooLong (length : Nat)
  | mutation (fault : MutationError)
deriving Repr, BEq, DecidableEq, Inhabited

namespace DecodeError

/-- The wording of a fault. -/
def message : DecodeError → String
  | malformed => "malformed document"
  | missing field => s!"missing field `{field}`"
  | duplicate field => s!"duplicate field `{field}`"
  | wrongType found expected =>
    "invalid type: " ++ found.describe Json.floatLayout.render ++ ", expected " ++ expected
  | wrongValue found expected =>
    "invalid value: " ++ found.describe Json.floatLayout.render ++ ", expected " ++ expected
  | tooShort length expected => s!"invalid length {length}, expected {expected}"
  | tooLong length => s!"invalid length {length}, expected fewer elements in array"
  | mutation fault => fault.message

end DecodeError

end EditWaves
