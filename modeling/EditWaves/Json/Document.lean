import EditWaves.Json.Numeral
import EditWaves.Text.Hex

/-!
# JSON documents

A `Document` is a JSON text as it was written: fields in document order,
repeated keys kept.  A text that breaks off is a document too; the place where it
breaks is marked, so a reader that goes through the document in order meets its
faults in the order of the text and can report a wrong value that stands before
the break.

* `Document.read` reads a text.
* `Document.toJson?` turns a document into a value: the last of several fields
  with one key wins, and nesting is limited.
* `Document.isSound` is what a document has to satisfy that is skipped over: it
  may hold numbers that are too large and unpaired surrogates.
-/

namespace EditWaves.Json

/-- A JSON text as it was written. -/
inductive Document where
  | null
  | bool (b : Bool)
  | number (n : Number)
  /-- A number too large for floating point. -/
  | oversized
  | string (s : String)
  /-- A string with an unpaired surrogate. -/
  | unpaired
  /-- An array; `cut` if the text breaks off after the items. -/
  | array (items : List Document) (cut : Bool)
  /-- An object; a key is `none` if it has an unpaired surrogate. -/
  | object (fields : List (Option String × Document)) (cut : Bool)
  /-- No value. -/
  | malformed
deriving Inhabited

namespace Document

/-- How deep arrays and objects may be nested. -/
def maxDepth : Nat := 127

/-! ## Characters and strings -/

/-- Whether a character may stand between tokens. -/
def isSpace (c : Char) : Bool := c = ' ' || c = '\n' || c = '\t' || c = '\r'

/-- Drops the blanks at the front. -/
def skipSpace (cs : List Char) : List Char := cs.dropWhile isSpace

/-- The value of four hexadecimal digits, and what follows them. -/
def readHex4 : List Char → Option (Nat × List Char)
  | a :: b :: c :: d :: rest => do
    let a ← Text.hexDigit? a
    let b ← Text.hexDigit? b
    let c ← Text.hexDigit? c
    let d ← Text.hexDigit? d
    some (a * 4096 + b * 256 + c * 16 + d, rest)
  | _ => none

theorem length_readHex4 {cs rest : List Char} {n : Nat} (h : readHex4 cs = some (n, rest)) :
    rest.length < cs.length := by
  match cs with
  | a :: b :: c :: d :: r =>
    simp only [readHex4, Option.bind_eq_bind, Option.bind_eq_some_iff, Option.some.injEq,
      Prod.mk.injEq] at h
    obtain ⟨_, _, _, _, _, _, _, _, _, hr⟩ := h
    subst hr
    simp only [List.length_cons]
    omega
  | [] | [_] | [_, _] | [_, _, _] => simp [readHex4] at h

/-- The second half of a surrogate pair, if it follows. -/
def readLow : List Char → Option (Nat × List Char)
  | '\\' :: 'u' :: rest =>
    match readHex4 rest with
    | some (n, rest) => if 0xDC00 ≤ n && n ≤ 0xDFFF then some (n, rest) else none
    | none => none
  | _ => none

theorem length_readLow {cs rest : List Char} {n : Nat} (h : readLow cs = some (n, rest)) :
    rest.length < cs.length := by
  unfold readLow at h
  split at h
  · split at h
    · rename_i heq
      split at h
      · simp only [Option.some.injEq, Prod.mk.injEq] at h
        have := length_readHex4 heq
        simp only [List.length_cons, ← h.2]
        omega
      · simp at h
    · simp at h
  · simp at h

/-- The character of a one-letter escape. -/
def escape? (c : Char) : Option Char :=
  if c = '"' || c = '\\' || c = '/' then some c
  else if c = 'b' then some (Char.ofNat 8)
  else if c = 'f' then some (Char.ofNat 12)
  else if c = 'n' then some '\n'
  else if c = 'r' then some '\r'
  else if c = 't' then some '\t'
  else none

/-- Reads a string after its opening quote.  `acc` holds the characters read so far
in reverse, `paired` tells whether every surrogate had its partner; the text is
`none` if one had not. -/
def readString (acc : List Char) (paired : Bool) (cs : List Char) :
    Option (Option String × List Char) :=
  match cs with
  | [] => none
  | '"' :: rest => some (if paired then some (String.ofList acc.reverse) else none, rest)
  | '\\' :: 'u' :: rest =>
    match _h : readHex4 rest with
    | none => none
    | some (n, rest') =>
      if 0xD800 ≤ n && n ≤ 0xDBFF then
        match _h' : readLow rest' with
        | some (low, rest'') =>
          let c := Char.ofNat (0x10000 + (n - 0xD800) * 0x400 + (low - 0xDC00))
          readString (c :: acc) paired rest''
        | none => readString acc false rest'
      else if 0xDC00 ≤ n && n ≤ 0xDFFF then readString acc false rest'
      else readString (Char.ofNat n :: acc) paired rest'
  | '\\' :: c :: rest =>
    match escape? c with
    | some c => readString (c :: acc) paired rest
    | none => none
  | c :: rest => if c.toNat < 0x20 then none else readString (c :: acc) paired rest
termination_by cs.length
decreasing_by
  all_goals simp only [List.length_cons]
  all_goals first
    | (have h1 := length_readHex4 _h; have h2 := length_readLow _h'; omega)
    | (have h1 := length_readHex4 _h; omega)
    | omega

/-! ## Values -/

/-- Drops a word from the front. -/
def dropWord : List Char → List Char → Option (List Char)
  | [], cs => some cs
  | _ :: _, [] => none
  | w :: ws, c :: cs => if w = c then dropWord ws cs else none

/-- Reads one of the words `null`, `true` and `false`. -/
def readWord (word : String) (value : Document) (cs : List Char) :
    Document × Option (List Char) :=
  match dropWord word.toList cs with
  | some rest => (value, some rest)
  | none => (malformed, none)

mutual

/-- Reads a value.  The rest is `none` if the text breaks off within the value.
`fuel` bounds the nesting of calls. -/
def readValue (fuel : Nat) (cs : List Char) : Document × Option (List Char) :=
  match fuel with
  | 0 => (malformed, none)
  | fuel + 1 =>
    match skipSpace cs with
    | [] => (malformed, none)
    | c :: rest =>
      if c = '"' then
        match readString [] true rest with
        | some (some s, rest) => (string s, some rest)
        | some (none, rest) => (unpaired, some rest)
        | none => (malformed, none)
      else if c = '[' then
        match skipSpace rest with
        | ']' :: rest => (array [] false, some rest)
        | _ => readItems fuel [] rest
      else if c = '\x7b' then
        match skipSpace rest with
        | '\x7d' :: rest => (object [] false, some rest)
        | _ => readFields fuel [] rest
      else if c = 'n' then readWord "null" null (c :: rest)
      else if c = 't' then readWord "true" (bool true) (c :: rest)
      else if c = 'f' then readWord "false" (bool false) (c :: rest)
      else
        match readNumeral (c :: rest) with
        | some (n, rest) =>
          match n.value? with
          | some x => (number x, some rest)
          | none => (oversized, some rest)
        | none => (malformed, none)

/-- Reads the items of an array up to its closing bracket; `acc` holds the items
read so far in reverse. -/
def readItems (fuel : Nat) (acc : List Document) (cs : List Char) :
    Document × Option (List Char) :=
  match fuel with
  | 0 => (array acc.reverse true, none)
  | fuel + 1 =>
    match readValue fuel cs with
    | (item, none) => (array (item :: acc).reverse true, none)
    | (item, some rest) =>
      match skipSpace rest with
      | ']' :: rest => (array (item :: acc).reverse false, some rest)
      | ',' :: rest =>
        match skipSpace rest with
        | ']' :: _ => (array (item :: acc).reverse true, none)
        | _ => readItems fuel (item :: acc) rest
      | _ => (array (item :: acc).reverse true, none)

/-- Reads the fields of an object up to its closing brace. -/
def readFields (fuel : Nat) (acc : List (Option String × Document)) (cs : List Char) :
    Document × Option (List Char) :=
  match fuel with
  | 0 => (object acc.reverse true, none)
  | fuel + 1 =>
    match skipSpace cs with
    | '"' :: rest =>
      match readString [] true rest with
      | none => (object acc.reverse true, none)
      | some (key, rest) =>
        match skipSpace rest with
        | ':' :: rest =>
          match readValue fuel rest with
          | (value, none) => (object ((key, value) :: acc).reverse true, none)
          | (value, some rest) =>
            match skipSpace rest with
            | '\x7d' :: rest => (object ((key, value) :: acc).reverse false, some rest)
            | ',' :: rest => readFields fuel ((key, value) :: acc) rest
            | _ => (object ((key, value) :: acc).reverse true, none)
        | _ => (object ((key, malformed) :: acc).reverse true, none)
    | _ => (object acc.reverse true, none)

end

/-- Reads a text: the document at its front, and whether only blanks follow it. -/
def read (s : String) : Document × Bool :=
  let cs := s.toList
  match readValue (2 * cs.length + 2) cs with
  | (d, some rest) => (d, (skipSpace rest).isEmpty)
  | (d, none) => (d, false)

/-! ## Keeping and skipping -/

mutual

/-- Whether a document that is skipped over is well formed. -/
def isSound : Document → Bool
  | malformed => false
  | array items cut => !cut && isSoundItems items
  | object fields cut => !cut && isSoundFields fields
  | _ => true

/-- `isSound` for every item. -/
def isSoundItems : List Document → Bool
  | [] => true
  | item :: rest => item.isSound && isSoundItems rest

/-- `isSound` for every field. -/
def isSoundFields : List (Option String × Document) → Bool
  | [] => true
  | (_, value) :: rest => value.isSound && isSoundFields rest

end

end Document

end EditWaves.Json
