import EditWaves.Toml.Quoted
import EditWaves.Toml.Scalar

/-!
# Configuration texts

Reading a whole TOML text.  A text is either accepted with its table or refused
without a reason.  Nesting of arrays and inline tables and the parts of a dotted
key are limited.
-/

namespace EditWaves.Toml

/-- The number of nested values, and of parts of a key, that is too large. -/
def depthLimit : Nat := 80

/-! ## Blanks and comments -/

/-- Drops blanks within a line. -/
def dropSpace (cs : List Char) : List Char := cs.dropWhile isSpace

/-- Drops a comment up to the end of its line. -/
def dropComment : List Char → List Char
  | '#' :: rest => rest.dropWhile isPlain
  | cs => cs

/-- Drops the end of a line; the end of the text is one too. -/
def dropNewline : List Char → Option (List Char)
  | [] => some []
  | '\n' :: rest => some rest
  | '\r' :: '\n' :: rest => some rest
  | _ => none

/-- Drops blanks and a comment up to the end of the line. -/
def dropTrailing (cs : List Char) : Option (List Char) := dropNewline (dropComment (dropSpace cs))

/-- Drops blanks, comments and line ends between the items of an array. -/
def dropGap : Nat → List Char → Option (List Char)
  | 0, cs => some cs
  | fuel + 1, cs =>
    match dropSpace cs with
    | '#' :: rest =>
      match rest.dropWhile isPlain with
      | '\n' :: rest => dropGap fuel rest
      | '\r' :: '\n' :: rest => dropGap fuel rest
      | _ => none
    | '\n' :: rest => dropGap fuel rest
    | '\r' :: '\n' :: rest => dropGap fuel rest
    | '\r' :: _ => none
    | rest => some rest

/-! ## Keys -/

/-- Whether a character may stand in a key without quotes. -/
def isBare (c : Char) : Bool := c.isAlphanum || c = '-' || c = '_'

/-- Reads one part of a key. -/
def readKeyPart (cs : List Char) : Option (String × List Char) :=
  match readString? false cs with
  | some chunk => chunk.map (fun r => (String.ofList r.1, r.2))
  | none =>
    match cs.takeWhile isBare with
    | [] => none
    | name => some (String.ofList name, cs.dropWhile isBare)

/-- Reads the parts of a key that dots separate. -/
def readKeyParts : Nat → List Char → Option (List String × List Char)
  | 0, _ => none
  | fuel + 1, cs => do
    let (part, cs) ← readKeyPart (dropSpace cs)
    match dropSpace cs with
    | '.' :: rest =>
      let (parts, rest) ← readKeyParts fuel rest
      some (part :: parts, rest)
    | rest => some ([part], rest)

/-- Reads a key. -/
def readKey (cs : List Char) : Option (List String × List Char) := readKeyParts (depthLimit - 1) cs

/-! ## Values -/

mutual

/-- Reads a value; `room` is how deep it may still be nested. -/
def readValue (fuel room : Nat) (cs : List Char) : Option (Toml × List Char) :=
  match fuel with
  | 0 => none
  | fuel + 1 =>
    match readString? true cs with
    | some chunk => chunk.map (fun r => (.string (String.ofList r.1), r.2))
    | none =>
      match cs with
      | '[' :: rest => if room = 0 then none else readItems fuel (room - 1) [] rest
      | '{' :: rest =>
        if room = 0 then none
        else
          match dropSpace rest with
          | '}' :: rest => some (.table .inline [], rest)
          | _ => readPairs fuel (room - 1) (.table .inline []) rest
      | cs => readScalar cs

/-- Reads the items of an array up to its end. -/
def readItems (fuel room : Nat) (items : List Toml) (cs : List Char) : Option (Toml × List Char) :=
  match fuel with
  | 0 => none
  | fuel + 1 => do
    match ← dropGap (cs.length + 1) cs with
    | ']' :: rest => some (.array items, rest)
    | cs =>
      let (item, cs) ← readValue fuel room cs
      match ← dropGap (cs.length + 1) cs with
      | ',' :: rest => readItems fuel room (items ++ [item]) rest
      | ']' :: rest => some (.array (items ++ [item]), rest)
      | _ => none

/-- Reads the keys and values of an inline table up to its end. -/
def readPairs (fuel room : Nat) (table : Toml) (cs : List Char) : Option (Toml × List Char) :=
  match fuel with
  | 0 => none
  | fuel + 1 => do
    let (path, cs) ← readKey cs
    match cs with
    | '=' :: rest =>
      let (value, cs) ← readValue fuel room (dropSpace rest)
      let table ← define path.dropLast (path.getLastD "") value table
      match dropSpace cs with
      | ',' :: rest => readPairs fuel room table rest
      | '}' :: rest => some (table, rest)
      | _ => none
    | _ => none

end

/-! ## Documents -/

/-- A document that has been read in part: its table, and the path of the table that
the last header opened. -/
structure Partial where
  root : Toml
  current : List String

/-- Reads a header after its first bracket. -/
def readHeader (p : Partial) (cs : List Char) : Option (Partial × List Char) := do
  match cs with
  | '[' :: rest =>
    let (path, cs) ← readKey rest
    match cs with
    | ']' :: ']' :: rest =>
      let root ← within false (openArray (path.getLastD "")) path.dropLast p.root
      some (⟨root, path⟩, ← dropTrailing rest)
    | _ => none
  | cs =>
    let (path, cs) ← readKey cs
    match cs with
    | ']' :: rest =>
      let root ← within false (openTable (path.getLastD "")) path.dropLast p.root
      some (⟨root, path⟩, ← dropTrailing rest)
    | _ => none

/-- Reads a line with a key and a value. -/
def readKeyValue (p : Partial) (cs : List Char) : Option (Partial × List Char) := do
  let (path, cs) ← readKey cs
  match cs with
  | '=' :: rest =>
    let (value, cs) ← readValue (2 * rest.length + 2) (depthLimit - 1) (dropSpace rest)
    let root ← within false (define path.dropLast (path.getLastD "") value) p.current p.root
    some ({ p with root }, ← dropTrailing cs)
  | _ => none

/-- Reads the lines of a document. -/
def readLines : Nat → Partial → List Char → Option Partial
  | 0, _, _ => none
  | fuel + 1, p, cs => do
    match dropSpace cs with
    | [] => some p
    | '\n' :: rest => readLines fuel p rest
    | '\r' :: '\n' :: rest => readLines fuel p rest
    | '#' :: rest => readLines fuel p (← dropNewline (rest.dropWhile isPlain))
    | '[' :: rest =>
      let (p, cs) ← readHeader p rest
      readLines fuel p cs
    | cs =>
      let (p, cs) ← readKeyValue p cs
      readLines fuel p cs

/-- The table of a configuration text, after a byte order mark if there is one. -/
def parse? (text : String) : Option Toml :=
  let cs := text.toList
  let cs := if cs.head? = some (Char.ofNat 0xFEFF) then cs.tail else cs
  (readLines (cs.length + 1) ⟨.table .header [], []⟩ cs).map Partial.root

end EditWaves.Toml
