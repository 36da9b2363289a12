import EditWaves.Json.Value
import EditWaves.Text.Hex

/-!
# Writing JSON

The compact form: no blanks, fields in the order of the list, floating point
numbers with the fewest digits that read back.
-/

namespace EditWaves.Json

/-- Floating point numbers are positional from `0.00001` up to sixteen digits before
the point; other exponents carry a sign. -/
def floatLayout : Decimal.Layout where
  positional e := -5 ≤ e && e ≤ 15
  plus := "+"

/-- The text of a number. -/
def Number.render : Number → String
  | .int n => toString n
  | .float x => floatLayout.render x

/-- One character inside a JSON string. -/
def escapeChar (c : Char) : String :=
  if c = '"' then "\\\""
  else if c = '\\' then "\\\\"
  else if c = '\n' then "\\n"
  else if c = '\r' then "\\r"
  else if c = '\t' then "\\t"
  else if c.toNat = 8 then "\\b"
  else if c.toNat = 12 then "\\f"
  else if c.toNat < 32 then "\\u00" ++ Text.hexByte c.toNat
  else c.toString

/-- A JSON string. -/
def renderString (s : String) : String :=
  "\"" ++ String.join (s.toList.map escapeChar) ++ "\""

mutual

/-- The compact text of a value. -/
def render : Json → String
  | .null => "null"
  | .bool true => "true"
  | .bool false => "false"
  | .number n => n.render
  | .string s => renderString s
  | .array items => "[" ++ ",".intercalate (renderItems items) ++ "]"
  | .object fields => "\x7b" ++ ",".intercalate (renderFields fields) ++ "\x7d"

/-- The texts of the items of an array. -/
def renderItems : List Json → List String
  | [] => []
  | item :: rest => item.render :: renderItems rest

/-- The texts of the fields of an object. -/
def renderFields : List (String × Json) → List String
  | [] => []
  | (key, value) :: rest => (renderString key ++ ":" ++ value.render) :: renderFields rest

end

end EditWaves.Json
