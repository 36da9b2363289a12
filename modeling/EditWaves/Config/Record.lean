import EditWaves.Mutation.Error
import EditWaves.Toml.Document

/-!
# Reading settings

Settings are records of named fields.  A record is read from a table, whose keys
are looked at in the order of the text, or from an array that lists the fields in
their own order.  `ConfigFault` says what is wrong with a configuration text.
-/

namespace EditWaves

/-- Why a configuration text is not a configuration. -/
inductive ConfigFault where
  /-- The text is no TOML text. -/
  | malformed
  /-- A choice between names is not given by a name. -/
  | noChoice
  | unknownField (name : String) (known : List String)
  | unknownChoice (name : String) (known : List String)
  | missing (field : String)
  | wrongType (found : Found) (expected : String)
  | wrongValue (found : Found) (expected : String)
  /-- An array stands for a record and ends too early. -/
  | tooShort (length : Nat) (expected : String)
deriving Repr, BEq, DecidableEq, Inhabited

namespace Toml

/-- Floating point numbers in messages are written without exponents. -/
def floatLayout : Decimal.Layout := ⟨fun _ => true, ""⟩

/-- The text of a floating point number in messages. -/
def floatText (x : Decimal.Binary) : String :=
  if x.isNaN then "NaN"
  else if x.isFinite then floatLayout.render x
  else if x.isNegative then "-inf"
  else "inf"

/-- The shape of a value in messages; a date counts as a table. -/
def found : Toml → Found
  | string s => .string s
  | integer n => .int n
  | float x => .float x
  | boolean b => .bool b
  | array _ | tables _ => .sequence
  | moment | table _ _ => .map

end Toml

namespace ConfigFault

/-- A name in messages. -/
def named (name : String) : String := "`" ++ name ++ "`"

/-- The names that would have been right. -/
def oneOf : List String → String
  | [] => "nothing"
  | [a] => named a
  | [a, b] => named a ++ " or " ++ named b
  | names => "one of " ++ ", ".intercalate (names.map named)

/-- The wording of a fault. -/
def message : ConfigFault → String
  | malformed => "malformed document"
  | noChoice => "wanted string or table"
  | unknownField name known => "unknown field " ++ named name ++ ", expected " ++ oneOf known
  | unknownChoice name known => "unknown variant " ++ named name ++ ", expected " ++ oneOf known
  | missing field => "missing field " ++ named field
  | wrongType found expected =>
    "invalid type: " ++ found.describe Toml.floatText ++ ", expected " ++ expected
  | wrongValue found expected =>
    "invalid value: " ++ found.describe Toml.floatText ++ ", expected " ++ expected
  | tooShort length expected => s!"invalid length {length}, expected {expected}"

end ConfigFault

namespace Config

/-! ## Plain values -/

/-- The fault of a value that should have been something else. -/
def unexpected {α : Type} (t : Toml) (expected : String) : Except ConfigFault α :=
  .error (.wrongType t.found expected)

/-- Reads a number; `expected` names its type in messages. -/
def number (expected : String) : Toml → Except ConfigFault Nat
  | .integer n => if n < 0 then .error (.wrongValue (.int n) expected) else .ok n.toNat
  | t => unexpected t expected

/-- Reads a text; `expected` names its type in messages. -/
def text (expected : String) : Toml → Except ConfigFault String
  | .string s => .ok s
  | t => unexpected t expected

/-- Reads a path. -/
def path (t : Toml) : Except ConfigFault String := text "path string" t

/-- Reads a list of texts. -/
def texts : Toml → Except ConfigFault (List String)
  | .array items | .tables items => items.mapM (text "a string")
  | t => unexpected t "a sequence"

/-- Reads one of several names. -/
def choiceNamed {α : Type} (options : List (String × α)) (name : String) : Except ConfigFault α :=
  match options.find? (·.1 = name) with
  | some option => .ok option.2
  | none => .error (.unknownChoice name (options.map Prod.fst))

/-- Whether a value is an array or table with nothing in it. -/
def isVoid : Toml → Bool
  | .array [] | .tables [] | .table _ [] => true
  | _ => false

/-- Reads a choice: a name, or a table with the name as its key and nothing behind
it.  A table in braces must not have other keys. -/
def choice {α : Type} (options : List (String × α)) : Toml → Except ConfigFault α
  | .string name => choiceNamed options name
  | .table form ((name, value) :: rest) => do
    if form = .inline && !rest.isEmpty then .error .noChoice
    else
      let chosen ← choiceNamed options name
      if isVoid value then .ok chosen else .error .noChoice
  | _ => .error .noChoice

/-! ## Records -/

/-- A field of a record. -/
structure Field (σ : Type) where
  name : String
  /-- Reads the value and puts it into the record. -/
  read : Toml → σ → Except ConfigFault σ
  /-- Whether a table has to have the field. -/
  inTable : Bool
  /-- Whether an array has to reach the field. -/
  inArray : Bool

/-- A record: its name in messages, its fields in order, and its value before any
field has been read. -/
structure Record (σ : Type) where
  name : String
  fields : List (Field σ)
  start : σ

namespace Record

variable {σ : Type}

/-- Reads one key of a table. -/
def readKey (r : Record σ) (s : σ) (entry : String × Toml) : Except ConfigFault σ :=
  match r.fields.find? (·.name = entry.1) with
  | some field => field.read entry.2 s
  | none => .error (.unknownField entry.1 (r.fields.map Field.name))

/-- Reads the keys of a table in order and then asks for those that are missing. -/
def readTable (r : Record σ) (entries : List (String × Toml)) : Except ConfigFault σ := do
  let s ← entries.foldlM r.readKey r.start
  match r.fields.find? (fun f => f.inTable && !(entries.any (·.1 = f.name))) with
  | some field => .error (.missing field.name)
  | none => .ok s

/-- What an array that stands for the record should have been. -/
def arrayShape (r : Record σ) : String :=
  let n := r.fields.length
  s!"struct {r.name} with {n} " ++ (if n = 1 then "element" else "elements")

/-- Reads the items of an array as fields; items left over are ignored. -/
def readItems (r : Record σ) (position : Nat) (s : σ) :
    List (Field σ) → List Toml → Except ConfigFault σ
  | [], _ => .ok s
  | field :: fields, [] =>
    if field.inArray then .error (.tooShort position r.arrayShape)
    else r.readItems (position + 1) s fields []
  | field :: fields, item :: items => do
    let s ← field.read item s
    r.readItems (position + 1) s fields items

/-- The key under which a date appears when a table is looked for. -/
def momentKey : String := "$__toml_private_datetime"

/-- Reads a record. -/
def read (r : Record σ) : Toml → Except ConfigFault σ
  | .table _ entries => r.readTable entries
  | .moment => .error (.unknownField momentKey (r.fields.map Field.name))
  | .array items | .tables items => r.readItems 0 r.start r.fields items
  | t => unexpected t ("struct " ++ r.name)

end Record

end Config

end EditWaves
