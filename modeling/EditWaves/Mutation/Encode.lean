import EditWaves.Mutation.Basic
import EditWaves.Json.Printer

/-!
# Mutations as JSON

A mutation has two JSON forms.  On its own it is the list of fields `ownFields`:
its range and its type, then the fields of its kind; a custom field may repeat the
keys `range` and `type`, and in the value the later one wins.  As a child of a
`multiple` it is `childJson`: all keys in order, and `range` and `type` are always
its own, the range being written key by key as well.
-/

namespace EditWaves

/-- A range as a JSON value. -/
def EditRange.toJson (r : EditRange) : Json :=
  match r.stop with
  | some stop => .object [("begin", .nat r.start), ("end", .nat stop)]
  | none => .object [("begin", .nat r.start)]

/-- A range as a JSON value in a child of a `multiple`. -/
def EditRange.childJson (r : EditRange) : Json :=
  let begun := Dict.empty.insert "begin" (.nat r.start)
  match r.stop with
  | some stop => .object (begun.insert "end" (.nat stop)).entries
  | none => .object begun.entries

/-- Both ways to write a range come to the same value. -/
theorem EditRange.childJson_eq_toJson (r : EditRange) : r.childJson = r.toJson := by
  rcases r with ⟨start, _ | stop⟩ <;> rfl

namespace Mutation

mutual

/-- The fields of a mutation's kind. -/
def kindFields : Mutation → Dict Json
  | delete _ => .empty
  | insert _ insertion | swap _ insertion => Dict.empty.insert "insertion" (.string insertion)
  | replace _ search template =>
    (Dict.empty.insert "search" (.string search)).insert "replace" (.string template)
  | multiple _ children => Dict.empty.insert "mutations" (.array (childrenJson children))
  | custom _ _ fields => fields

/-- The JSON values of the children of a `multiple`.  Their own range and type
replace custom fields of these names. -/
def childrenJson : List Mutation → List Json
  | [] => []
  | m :: ms =>
    .object (((kindFields m).insert "range" m.range.childJson).insert "type"
      (.string m.tag)).entries :: childrenJson ms

end

/-- A mutation as a child of a `multiple`. -/
def childJson (m : Mutation) : Json :=
  .object ((m.kindFields.insert "range" m.range.childJson).insert "type" (.string m.tag)).entries

theorem childrenJson_eq_map (ms : List Mutation) : childrenJson ms = ms.map childJson := by
  induction ms with
  | nil => rfl
  | cons m ms ih => simp [childrenJson, childJson, ih]

/-- The fields of a mutation on its own, in the order of its text. -/
def ownFields (m : Mutation) : List (String × Json) :=
  ("range", m.range.toJson) :: ("type", .string m.tag) :: m.kindFields.entries

/-- A mutation on its own as a JSON value. -/
def toJson (m : Mutation) : Json := .object (Dict.ofList m.ownFields).entries

/-- A mutation on its own as written. -/
def toWritten (m : Mutation) : Json := .object m.ownFields

/-- The JSON text of a mutation. -/
def render (m : Mutation) : String := m.toWritten.render

end Mutation

namespace FileMutations

/-- Mutations by file as a JSON value. -/
def toJson (files : FileMutations) : Json :=
  .object (files.map (fun ms => Json.array (ms.map Mutation.toJson))).entries

/-- Mutations by file as written. -/
def toWritten (files : FileMutations) : Json :=
  .object (files.map (fun ms => Json.array (ms.map Mutation.toWritten))).entries

end FileMutations

namespace Wave

/-- The key of a wave's mapping. -/
def filesKey : String := "fileMutations"

/-- A wave as a JSON value. -/
def toJson (w : Wave) : Json :=
  match w.files with
  | some files => .object [(filesKey, files.toJson)]
  | none => .object []

/-- A wave as written. -/
def toWritten (w : Wave) : Json :=
  match w.files with
  | some files => .object [(filesKey, files.toWritten)]
  | none => .object []

end Wave

end EditWaves
