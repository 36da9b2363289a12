import EditWaves.Json.Keep
import EditWaves.Mutation.Decode

/-!
# Mutations from JSON texts

Reading ranges, mutations and waves from documents.  A document is gone through in
the order of the text, and the first fault wins: a value of the wrong shape is
reported even if the text breaks off after it.  A repeated `begin`, `end`,
`range`, `type` or `fileMutations` is a fault.  The fields of a mutation's kind
are looked at once the whole object has been read; the children of a `multiple`
are then values like any other.

`room` is how deep arrays and objects may still be nested.
-/

namespace EditWaves

open Json (Document)

namespace Json.Document

/-- The shape of a document in messages, if it has one. -/
def found : Document → Except DecodeError Found
  | null => .ok .null
  | bool b => .ok (.bool b)
  | number (.int n) => .ok (.int n)
  | number (.float x) => .ok (.float x)
  | string s => .ok (.string s)
  | array _ _ => .ok .sequence
  | object _ _ => .ok .map
  | oversized | unpaired | malformed => .error .malformed

/-- The fault of a document that should have been something else. -/
def unexpected {α : Type} (d : Document) (expected : String) : Except DecodeError α := do
  let shape ← d.found
  .error (.wrongType shape expected)

/-- Skips a document. -/
def skip (d : Document) : Except DecodeError Unit :=
  if d.isSound then .ok () else .error .malformed

/-- Keeps a document as a value. -/
def keep (room : Nat) (d : Document) : Except DecodeError Json :=
  match d.toJson? room with
  | some v => .ok v
  | none => .error .malformed

/-- Enters an array or object. -/
def enter (room : Nat) : Except DecodeError Nat :=
  if room = 0 then .error .malformed else .ok (room - 1)

/-- Fails if the text breaks off. -/
def close (cut : Bool) : Except DecodeError Unit :=
  if cut then .error .malformed else .ok ()

/-- Reads an offset. -/
def offset : Document → Except DecodeError Nat
  | number (.int n) => offsetOfInt n
  | d => d.unexpected "usize"

/-- Reads an offset or `null`. -/
def offsetOrNull : Document → Except DecodeError (Option Nat)
  | null => .ok none
  | d => d.offset.map some

/-- Reads a text. -/
def text : Document → Except DecodeError String
  | string s => .ok s
  | d => d.unexpected "a string"

end Json.Document

/-- Fails if a field has been met before. -/
def once {α : Type} (seen : Option α) (field : String) : Except DecodeError Unit :=
  if seen.isSome then .error (.duplicate field) else .ok ()

namespace EditRange

/-- Goes through the fields of a range. -/
def ofDocumentFields (start : Option Nat) (stop : Option (Option Nat)) :
    List (Option String × Document) → Except DecodeError (Option Nat × Option (Option Nat))
  | [] => .ok (start, stop)
  | (none, _) :: _ => .error .malformed
  | (some key, d) :: rest =>
    if key = "begin" then do
      once start key
      let start ← d.offset
      ofDocumentFields (some start) stop rest
    else if key = "end" then do
      once stop key
      let stop ← d.offsetOrNull
      ofDocumentFields start (some stop) rest
    else do
      d.skip
      ofDocumentFields start stop rest

/-- Reads a range. -/
def ofDocument (room : Nat) : Document → Except DecodeError EditRange
  | .object fields cut => do
    let _ ← Document.enter room
    let (start, stop) ← ofDocumentFields none none fields
    Document.close cut
    match start with
    | none => .error (.missing "begin")
    | some start => checked start (stop.getD none)
  | .array items cut => do
    let _ ← Document.enter room
    match items with
    | [] =>
      Document.close cut
      .error (.tooShort 0 lengthText)
    | [first] =>
      let start ← first.offset
      Document.close cut
      checked start none
    | first :: second :: rest =>
      let start ← first.offset
      let stop ← second.offsetOrNull
      Document.close (cut || !rest.isEmpty)
      checked start stop
  | d => d.unexpected typeName

end EditRange

namespace Mutation

/-- Goes through the fields of a mutation; `others` holds the fields of its kind in
reverse. -/
def headOfFields (room : Nat) (range : Option EditRange) (tag : Option String)
    (others : List (String × Json)) :
    List (Option String × Document) →
      Except DecodeError (Option EditRange × Option String × List (String × Json))
  | [] => .ok (range, tag, others.reverse)
  | (none, _) :: _ => .error .malformed
  | (some key, d) :: rest =>
    if key = "range" then do
      once range key
      let range ← EditRange.ofDocument room d
      headOfFields room (some range) tag others rest
    else if key = "type" then do
      once tag key
      let tag ← d.text
      headOfFields room range (some tag) others rest
    else do
      let v ← d.keep room
      headOfFields room range tag ((key, v) :: others) rest

/-- Reads the head of a mutation. -/
def Head.ofDocument (room : Nat) : Document → Except DecodeError Head
  | .object fields cut => do
    let room ← Document.enter room
    let (range, tag, others) ← headOfFields room none none [] fields
    Document.close cut
    Head.checked range tag (Dict.ofList others)
  | d => d.unexpected typeName

/-- The mutation with a given head; the children of a `multiple` are read from the
field that holds them. -/
def ofHead (head : Head) : Except DecodeError Mutation :=
  head.toMutation <|
    match head.fields.get? Head.childrenKey with
    | none => .error (.mutation (.missingField head.tag Head.childrenKey))
    | some w => (listOfJson w).mapError head.childFault

/-- Reads a mutation. -/
def ofDocument (room : Nat) (d : Document) : Except DecodeError Mutation := do
  let head ← Head.ofDocument room d
  ofHead head

/-- Reads the items of an array. -/
def itemsOfDocument {α : Type} (item : Document → Except DecodeError α) :
    List Document → Except DecodeError (List α)
  | [] => .ok []
  | d :: rest => do
    let a ← item d
    let as ← itemsOfDocument item rest
    return a :: as

/-- Reads an array. -/
def arrayOfDocument {α : Type} (item : Nat → Document → Except DecodeError α) (room : Nat) :
    Document → Except DecodeError (List α)
  | .array items cut => do
    let room ← Document.enter room
    let as ← itemsOfDocument (item room) items
    Document.close cut
    return as
  | d => d.unexpected "a sequence"

/-- Reads an array of mutations. -/
def listOfDocument (room : Nat) (d : Document) : Except DecodeError (List Mutation) :=
  arrayOfDocument ofDocument room d

end Mutation

namespace FileMutations

/-- Goes through the files of a wave. -/
def ofDocumentFields (room : Nat) :
    List (Option String × Document) → Except DecodeError (List (String × List Mutation))
  | [] => .ok []
  | (none, _) :: _ => .error .malformed
  | (some name, d) :: rest => do
    let ms ← Mutation.listOfDocument room d
    let others ← ofDocumentFields room rest
    return (name, ms) :: others

/-- Reads mutations by file. -/
def ofDocument (room : Nat) : Document → Except DecodeError FileMutations
  | .object fields cut => do
    let room ← Document.enter room
    let files ← ofDocumentFields room fields
    Document.close cut
    return Dict.ofList files
  | d => d.unexpected "a map"

end FileMutations

namespace Wave

/-- Reads mutations by file or `null`. -/
def filesOfDocument (room : Nat) : Document → Except DecodeError (Option FileMutations)
  | .null => .ok none
  | d => (FileMutations.ofDocument room d).map some

/-- Goes through the fields of a wave. -/
def ofDocumentFields (room : Nat) (files : Option (Option FileMutations)) :
    List (Option String × Document) → Except DecodeError (Option (Option FileMutations))
  | [] => .ok files
  | (none, _) :: _ => .error .malformed
  | (some key, d) :: rest =>
    if key = "fileMutations" then do
      once files key
      let files ← filesOfDocument room d
      ofDocumentFields room (some files) rest
    else do
      d.skip
      ofDocumentFields room files rest

/-- Reads a wave. -/
def ofDocument (room : Nat) : Document → Except DecodeError Wave
  | .object fields cut => do
    let room ← Document.enter room
    let files ← ofDocumentFields room none fields
    Document.close cut
    return ⟨files.getD none⟩
  | .array items cut => do
    let room ← Document.enter room
    match items with
    | [] =>
      Document.close cut
      return dry
    | first :: rest =>
      let files ← filesOfDocument room first
      Document.close (cut || !rest.isEmpty)
      return ⟨files⟩
  | d => d.unexpected typeName

/-- Reads an array of waves. -/
def listOfDocument (room : Nat) (d : Document) : Except DecodeError (List Wave) :=
  Mutation.arrayOfDocument ofDocument room d

end Wave

/-- Reads a whole JSON text with a reader of documents. -/
def readText {α : Type} (reader : Nat → Document → Except DecodeError α) (s : String) :
    Except DecodeError α := do
  let (d, complete) := Document.read s
  let a ← reader Document.maxDepth d
  if complete then .ok a else .error .malformed

end EditWaves
