import EditWaves.Pattern.Cursor

/-!
# Escapes and single characters

What a backslash introduces: characters by number, classes by letter or property,
assertions, and punctuation that stands for itself.
-/

namespace EditWaves.Pattern

/-- A part of a pattern that is not composed of others. -/
inductive Primitive where
  | literal (c : Char) (byte : Bool)
  | dot
  | assertion (a : Assertion)
  | shorthand (kind : Shorthand) (negated : Bool)
  | property (query : PropertyQuery)

/-- A primitive as a pattern. -/
def Primitive.toAst : Primitive → Ast
  | .literal c byte => .literal c byte
  | .dot => .dot
  | .assertion a => .assertion a
  | .shorthand kind negated => .shorthand kind negated
  | .property query => .property query

/-- A primitive as a member of a class; assertions are none. -/
def Primitive.toClassSet? : Primitive → Option ClassSet
  | .literal c byte => some (.literal c byte)
  | .shorthand kind negated => some (.shorthand kind negated)
  | .property query => some (.property query)
  | .dot | .assertion _ => none

namespace Parser

/-- The value of a hexadecimal digit. -/
def hexValue? (c : Char) : Option Nat :=
  if c.isDigit then some (c.toNat - '0'.toNat)
  else if 'a' ≤ c && c ≤ 'f' then some (c.toNat - 'a'.toNat + 10)
  else if 'A' ≤ c && c ≤ 'F' then some (c.toNat - 'A'.toNat + 10)
  else none

/-- The character with a number, if there is one. -/
def charOfNumber (n : Nat) : Parser Char :=
  if n < 0xD800 || (0xE000 ≤ n && n ≤ 0x10FFFF) then return Char.ofNat n else failure

/-- The value of hexadecimal digits. -/
def hexNumber (ds : List Char) : Parser Nat :=
  ds.foldlM (fun n c => do
    match hexValue? c with
    | some d => return n * 16 + d
    | none => failure) 0

/-- Reads exactly `count` hexadecimal digits. -/
def hexDigits : Nat → Parser (List Char)
  | 0 => return []
  | count + 1 => do
    let c ← current
    if (hexValue? c).isNone then failure
    advanceSkip
    let cs ← hexDigits count
    return c :: cs

/-- Reads a character by its number after `x`, `u` or `U`: in braces or with a fixed
number of digits. -/
def hexEscape (letter : Char) : Parser Primitive := do
  advanceSkip
  let c ← current
  if c = '\x7b' then
    advanceSkip
    let ds ← takeWhileSkip (· ≠ '\x7d') (← left)
    if (← peek) ≠ some '\x7d' then failure
    advanceSkip
    if ds.isEmpty || 8 < (ds.dropWhile (· = '0')).length then failure
    return .literal (← charOfNumber (← hexNumber ds)) false
  else
    let count := if letter = 'x' then 2 else if letter = 'u' then 4 else 8
    let ds ← hexDigits count
    return .literal (← charOfNumber (← hexNumber ds)) (letter = 'x')

/-- Splits a list of characters at the first occurrence of a word. -/
def splitAtWord (word : List Char) : List Char → Option (List Char × List Char)
  | [] => none
  | c :: rest =>
    if word.isPrefixOf (c :: rest) then some ([], (c :: rest).drop word.length)
    else (splitAtWord word rest).map (fun p => (c :: p.1, p.2))

/-- The query that the text between the braces of a property stands for. -/
def propertyQuery (negated : Bool) (cs : List Char) : PropertyQuery :=
  match splitAtWord ['!', '='] cs with
  | some (name, value) => ⟨String.ofList name, some (String.ofList value), !negated⟩
  | none =>
    match splitAtWord [':'] cs with
    | some (name, value) => ⟨String.ofList name, some (String.ofList value), negated⟩
    | none =>
      match splitAtWord ['='] cs with
      | some (name, value) => ⟨String.ofList name, some (String.ofList value), negated⟩
      | none => ⟨String.ofList cs, none, negated⟩

/-- Reads a property after `p` or `P`. -/
def propertyEscape (negated : Bool) : Parser Primitive := do
  advanceSkip
  let c ← current
  if c = '\x7b' then
    advanceSkip
    let cs ← takeWhileSkip (· ≠ '\x7d') (← left)
    if (← peek) ≠ some '\x7d' then failure
    advance
    return .property (propertyQuery negated cs)
  else if c = '\\' then failure
  else
    advanceSkip
    return .property ⟨c.toString, none, negated⟩

/-- Reads what may follow `\b` in braces.  It is no edge if it does not begin with a
letter or a dash; then a repetition follows. -/
def edgeInBraces : Parser (Option WordEdge) := do
  let saved ← get
  let isNameChar (c : Char) : Bool := c.isAlpha || c = '-'
  advanceSkip
  let c ← current
  if !isNameChar c then
    set saved
    return none
  else
    let name ← takeWhileSkip isNameChar (← left)
    if (← peek) ≠ some '\x7d' then failure
    advance
    match String.ofList name with
    | "start" => return some .start
    | "end" => return some .finish
    | "start-half" => return some .startHalf
    | "end-half" => return some .finishHalf
    | _ => failure

/-- The characters with a meaning of their own. -/
def metaCharacters : List Char :=
  ['\\', '.', '+', '*', '?', '(', ')', '|', '[', ']', '\x7b', '\x7d', '^', '$', '#', '&', '-', '~']

/-- Whether a character stands for itself after a backslash. -/
def isEscapable (c : Char) : Bool :=
  metaCharacters.contains c || (c.toNat < 128 && !c.isAlphanum && c ≠ '<' && c ≠ '>')

/-- Reads an escape. -/
def escape : Parser Primitive := do
  advance
  let c ← current
  if c.isDigit then failure
  else if c = 'x' || c = 'u' || c = 'U' then hexEscape c
  else if c = 'p' || c = 'P' then propertyEscape (c = 'P')
  else
    advance
    if isEscapable c then return .literal c false
    else
      match c with
      | 'd' => return .shorthand .digit false
      | 'D' => return .shorthand .digit true
      | 's' => return .shorthand .space false
      | 'S' => return .shorthand .space true
      | 'w' => return .shorthand .word false
      | 'W' => return .shorthand .word true
      | 'a' => return .literal (Char.ofNat 7) false
      | 'f' => return .literal (Char.ofNat 12) false
      | 't' => return .literal '\t' false
      | 'n' => return .literal '\n' false
      | 'r' => return .literal '\r' false
      | 'v' => return .literal (Char.ofNat 11) false
      | 'A' => return .assertion .textStart
      | 'z' => return .assertion .textEnd
      | 'B' => return .assertion (.word .inside)
      | '<' => return .assertion (.word .start)
      | '>' => return .assertion (.word .finish)
      | 'b' =>
        if (← peek) = some '\x7b' then
          return .assertion (.word ((← edgeInBraces).getD .boundary))
        else return .assertion (.word .boundary)
      | _ => failure

/-- Reads a single character or an escape outside of classes. -/
def primitive : Parser Primitive := do
  let c ← current
  if c = '\\' then escape
  else
    advance
    match c with
    | '.' => return .dot
    | '^' => return .assertion .lineStart
    | '$' => return .assertion .lineEnd
    | c => return .literal c false

end Parser

end EditWaves.Pattern
