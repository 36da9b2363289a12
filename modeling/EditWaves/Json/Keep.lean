import EditWaves.Dict
import EditWaves.Json.Document

/-!
# From documents to values

`Document.toJson?` keeps a document as a value.  Fields come out in ascending key
order and of several with one key the last wins.  It fails on everything that is
no value: a text that breaks off, a number that is too large, an unpaired
surrogate, and nesting beyond the limit.
-/

namespace EditWaves.Json.Document

mutual

/-- The value of a document in which arrays and objects may be nested `room` deep. -/
def toJson? (room : Nat) : Document → Option Json
  | null => some .null
  | bool b => some (.bool b)
  | number n => some (.number n)
  | string s => some (.string s)
  | oversized | unpaired | malformed => none
  | array items cut =>
    if room = 0 then none
    else do
      let items ← itemsToJson? (room - 1) items
      if cut then none else some (.array items)
  | object fields cut =>
    if room = 0 then none
    else do
      let fields ← fieldsToJson? (room - 1) fields
      if cut then none else some (.object (Dict.ofList fields).entries)

/-- The values of the items of an array. -/
def itemsToJson? (room : Nat) : List Document → Option (List Json)
  | [] => some []
  | item :: rest => do
    let item ← item.toJson? room
    let rest ← itemsToJson? room rest
    some (item :: rest)

/-- The values of the fields of an object. -/
def fieldsToJson? (room : Nat) : List (Option String × Document) → Option (List (String × Json))
  | [] => some []
  | (none, _) :: _ => none
  | (some key, value) :: rest => do
    let value ← value.toJson? room
    let rest ← fieldsToJson? room rest
    some ((key, value) :: rest)

end

end Document

/-- The value that a text holds, if it is a JSON text nested at most `room` deep. -/
def parse? (room : Nat) (s : String) : Option Json :=
  match Document.read s with
  | (d, true) => d.toJson? room
  | (_, false) => none

/-- The field of an object under a key. -/
def field? (v : Json) (key : String) : Option Json :=
  match v with
  | .object fields => Dict.find? key fields
  | _ => none

end EditWaves.Json
