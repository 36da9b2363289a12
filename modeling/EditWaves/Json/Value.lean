import EditWaves.Decimal.Shortest

/-!
# JSON values

The values that custom fields carry and that mutations are encoded to.  An object
is a list of fields; a value in canonical form lists them in ascending key order,
each key once.
-/

namespace EditWaves

/-- A JSON number: an integer of at most 64 bits or a floating point number. -/
inductive Json.Number where
  | int (n : Int)
  | float (x : Decimal.Binary)
deriving Repr, BEq, DecidableEq, Inhabited

/-- A JSON value. -/
inductive Json where
  | null
  | bool (b : Bool)
  | number (n : Json.Number)
  | string (s : String)
  | array (items : List Json)
  | object (fields : List (String × Json))
deriving Inhabited

namespace Json

/-- A natural number as a value. -/
def nat (n : Nat) : Json := .number (.int n)

/-- The value of a list of texts. -/
def strings (l : List String) : Json := .array (l.map .string)

end Json

end EditWaves
