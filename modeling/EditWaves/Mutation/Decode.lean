import EditWaves.Mutation.Basic
import EditWaves.Mutation.Error

/-!
# Mutations from JSON values

Reading ranges, mutations, lists of mutations, mutations by file and waves from
JSON values.  The fields of an object are looked at in ascending order of their
keys: a bad range is reported before a bad type, and both before a missing one.
The fields of the kind come last.

* `Mutation.ofJson` reads a mutation.  A custom type keeps all fields except
  `range` and `type`; a built-in type ignores the fields that it does not know.
* `Mutation.Head` is what is common to all kinds, read first.
-/

namespace EditWaves

/-- The shape of a value in messages. -/
def Json.found : Json → Found
  | .null => .null
  | .bool b => .bool b
  | .number (.int n) => .int n
  | .number (.float x) => .float x
  | .string s => .string s
  | .array _ => .sequence
  | .object _ => .map

/-- Offsets have 64 bits. -/
def offsetLimit : Nat := 18446744073709551616

/-- The offset that an integer stands for. -/
def offsetOfInt (n : Int) : Except DecodeError Nat :=
  if n < 0 then .error (.wrongValue (.int n) "usize")
  else if n.toNat < offsetLimit then .ok n.toNat
  else .error (.wrongValue (.int n) "usize")

/-- Reads an offset. -/
def offsetOfJson : Json → Except DecodeError Nat
  | .number (.int n) => offsetOfInt n
  | v => .error (.wrongType v.found "usize")

/-- Reads an offset or `null`. -/
def offsetOrNull : Json → Except DecodeError (Option Nat)
  | .null => .ok none
  | v => (offsetOfJson v).map some

namespace EditRange

/-- What a range is called in messages. -/
def typeName : String := "struct RawMutationRange"

/-- A range read from an array is this long. -/
def lengthText : String := typeName ++ " with 2 elements"

/-- The range with the given ends, unless the end precedes the begin. -/
def checked (start : Nat) (stop : Option Nat) : Except DecodeError EditRange :=
  let r : EditRange := ⟨start, stop⟩
  if r.isForward then .ok r else .error (.mutation (.invalidRange start (stop.getD 0)))

/-- Reads a range from an object with `begin` and `end` or from an array of the two. -/
def ofJson : Json → Except DecodeError EditRange
  | .object fields => do
    let start ← (Dict.find? "begin" fields).mapM offsetOfJson
    let stop ← (Dict.find? "end" fields).mapM offsetOrNull
    match start with
    | none => .error (.missing "begin")
    | some start => checked start (stop.getD none)
  | .array [] => .error (.tooShort 0 lengthText)
  | .array [first] => do
    let start ← offsetOfJson first
    checked start none
  | .array (first :: second :: rest) => do
    let start ← offsetOfJson first
    let stop ← offsetOrNull second
    if rest.isEmpty then checked start stop else .error (.tooLong (rest.length + 2))
  | v => .error (.wrongType v.found typeName)

end EditRange

namespace Mutation

/-- What a mutation is called in messages. -/
def typeName : String := "struct RawMutation"

/-- The range and the type of a mutation, and its other fields. -/
structure Head where
  range : EditRange
  tag : String
  fields : Dict Json

/-- Reads a text. -/
def stringOfJson : Json → Except DecodeError String
  | .string s => .ok s
  | v => .error (.wrongType v.found "a string")

/-- Whether a key is common to all kinds of mutations. -/
def isHeadKey (key : String) : Bool := key = "range" || key = "type"

namespace Head

/-- The head of an object that has been gone through. -/
def checked (range : Option EditRange) (tag : Option String) (fields : Dict Json) :
    Except DecodeError Head :=
  match range, tag with
  | none, _ => .error (.missing "range")
  | _, none => .error (.missing "type")
  | some range, some tag => .ok ⟨range, tag, fields⟩

/-- Reads the head of a mutation. -/
def ofJson : Json → Except DecodeError Head
  | .object fields => do
    let range ← (Dict.find? "range" fields).mapM EditRange.ofJson
    let tag ← (Dict.find? "type" fields).mapM stringOfJson
    checked range tag (Dict.ofList (fields.filter (fun e => !isHeadKey e.1)))
  | v => .error (.wrongType v.found typeName)

/-- A text field of a built-in kind. -/
def stringField (h : Head) (field : String) : Except DecodeError String :=
  match h.fields.get? field with
  | some (.string s) => .ok s
  | some other =>
    .error (.mutation (.malformedField h.tag field ("expected a string, found " ++ other.render)))
  | none => .error (.mutation (.missingField h.tag field))

/-- The key of the children of a `multiple`. -/
def childrenKey : String := "mutations"

/-- A fault inside the children of a `multiple`, reported for the field that holds
them. -/
def childFault (h : Head) (fault : DecodeError) : DecodeError :=
  .mutation (.malformedField h.tag childrenKey fault.message)

/-- The mutation with the given head and children. -/
def toMutation (h : Head) (children : Except DecodeError (List Mutation)) :
    Except DecodeError Mutation :=
  if h.tag = Tag.delete then .ok (.delete h.range)
  else if h.tag = Tag.insert then do
    let insertion ← h.stringField "insertion"
    return .insert h.range insertion
  else if h.tag = Tag.replace then do
    let search ← h.stringField "search"
    let template ← h.stringField "replace"
    return .replace h.range search template
  else if h.tag = Tag.swap then do
    let insertion ← h.stringField "insertion"
    return .swap h.range insertion
  else if h.tag = Tag.multiple then do
    let children ← children
    return .multiple h.range children
  else .ok (.custom h.range h.tag h.fields)

/-- A value among the fields of a head is smaller than the value the head was read
from. -/
theorem sizeOf_get?_lt {v w : Json} {h : Head} {key : String} (hv : ofJson v = .ok h)
    (hw : h.fields.get? key = some w) : sizeOf w < sizeOf v := by
  cases v with
  | object fields =>
    have hfields : h.fields = Dict.ofList (fields.filter (fun e => !isHeadKey e.1)) := by
      simp only [ofJson, bind, Except.bind] at hv
      split at hv
      · simp at hv
      · split at hv
        · simp at hv
        · unfold checked at hv
          split at hv <;> simp at hv
          rw [← hv]
    have hmem : (key, w) ∈ fields := by
      have := Dict.mem_of_mem_ofList (hfields ▸ Dict.mem_of_find?_eq_some hw)
      exact (List.mem_filter.1 this).1
    have hlt := List.sizeOf_lt_of_mem hmem
    simp only [Prod.mk.sizeOf_spec] at hlt
    simp only [Json.object.sizeOf_spec]
    omega
  | null => simp [ofJson] at hv
  | bool b => simp [ofJson] at hv
  | number n => simp [ofJson] at hv
  | string s => simp [ofJson] at hv
  | array items => simp [ofJson] at hv

end Head

mutual

/-- Reads a mutation. -/
def ofJson (v : Json) : Except DecodeError Mutation :=
  match _hv : Head.ofJson v with
  | .error fault => .error fault
  | .ok head =>
    head.toMutation <|
      match _hw : head.fields.get? Head.childrenKey with
      | none => .error (.mutation (.missingField head.tag Head.childrenKey))
      | some w => (listOfJson w).mapError head.childFault
termination_by (sizeOf v, 0)
decreasing_by
  have := Head.sizeOf_get?_lt _hv _hw
  exact Prod.Lex.left _ _ this

/-- Reads an array of mutations. -/
def listOfJson (v : Json) : Except DecodeError (List Mutation) :=
  match v with
  | .array items => ofItems items
  | v => .error (.wrongType v.found "a sequence")
termination_by (sizeOf v, 0)
decreasing_by
  apply Prod.Lex.left
  simp

/-- Reads the items of an array of mutations. -/
def ofItems (items : List Json) : Except DecodeError (List Mutation) :=
  match items with
  | [] => .ok []
  | item :: rest => do
    let m ← ofJson item
    let ms ← ofItems rest
    return m :: ms
termination_by (sizeOf items, 0)
decreasing_by
  all_goals
    apply Prod.Lex.left
    simp
    try omega

end

end Mutation

namespace FileMutations

/-- Reads the mutations of each file in the given order. -/
def ofFields : List (String × Json) → Except DecodeError (List (String × List Mutation))
  | [] => .ok []
  | (name, v) :: rest => do
    let ms ← Mutation.listOfJson v
    let others ← ofFields rest
    return (name, ms) :: others

/-- Reads mutations by file. -/
def ofJson : Json → Except DecodeError FileMutations
  | .object fields => (ofFields fields).map Dict.ofList
  | v => .error (.wrongType v.found "a map")

end FileMutations

namespace Wave

/-- What a wave is called in messages. -/
def typeName : String := "struct MutationsWave"

/-- Reads mutations by file or `null`. -/
def filesOrNull : Json → Except DecodeError (Option FileMutations)
  | .null => .ok none
  | v => (FileMutations.ofJson v).map some

/-- Reads a wave from an object or from an array of its one field. -/
def ofJson : Json → Except DecodeError Wave
  | .object fields => do
    let files ← (Dict.find? "fileMutations" fields).mapM filesOrNull
    return ⟨files.getD none⟩
  | .array [] => .ok dry
  | .array (first :: rest) => do
    let files ← filesOrNull first
    if rest.isEmpty then return ⟨files⟩ else .error (.tooLong (rest.length + 1))
  | v => .error (.wrongType v.found typeName)

/-- Reads waves one after another. -/
def ofItems : List Json → Except DecodeError (List Wave)
  | [] => .ok []
  | item :: rest => do
    let w ← ofJson item
    let ws ← ofItems rest
    return w :: ws

/-- Reads an array of waves. -/
def listOfJson : Json → Except DecodeError (List Wave)
  | .array items => ofItems items
  | v => .error (.wrongType v.found "a sequence")

end Wave

end EditWaves
