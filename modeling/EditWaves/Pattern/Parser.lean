import EditWaves.Pattern.Bracket
import EditWaves.Pattern.Unicode.Class

/-!
# Reading patterns

`Ast.parse?` reads a pattern: alternatives of sequences of repeated parts.  A
repetition needs something to repeat, counts are at most 32 bits wide and may have
blanks around them, names of groups are not repeated, and nesting is limited.
There is no look-around and there are no back-references.
-/

namespace EditWaves.Pattern

namespace Parser

/-! ## Repetitions -/

/-- The largest count of a repetition. -/
def maxCount : Nat := 4294967295

/-- Drops blanks, in every mode. -/
def dropSpaces : Parser Unit := modify (fun s => { s with rest := s.rest.dropWhile Text.isBlank })

/-- Reads a count. -/
def count : Parser Nat := do
  dropSpaces
  let ds ← takeWhileSkip Char.isDigit (← left)
  dropSpaces
  skipBlanks
  let n := ds.foldl (fun n c => n * 10 + (c.toNat - '0'.toNat)) 0
  if ds.isEmpty || maxCount < n then failure
  return n

/-- Whether a question mark follows, which makes a repetition lazy. -/
def isLazy : Parser Bool := do
  if (← peek) = some '?' then
    advance
    return true
  else return false

/-- Takes the part that a repetition applies to off the parts read so far. -/
def repeated : List Ast → Parser (Ast × List Ast)
  | [] => failure
  | .empty :: _ => failure
  | .flags _ :: _ => failure
  | a :: rest => return (a, rest)

/-- Reads a count in braces. -/
def countedRepetition : Parser (Nat × Option Nat) := do
  advanceSkip
  let min ← count
  let max ←
    if (← current) = ',' then
      advanceSkip
      if (← current) = '\x7d' then pure none
      else do
        let max ← count
        if max < min then failure
        pure (some max)
    else pure (some min)
  if (← current) ≠ '\x7d' then failure
  advanceSkip
  return (min, max)

/-! ## Groups -/

/-- The flag of a letter. -/
def flag? (c : Char) : Option Flag :=
  match c with
  | 'i' => some .ignoreCase
  | 'm' => some .multiLine
  | 's' => some .dotAll
  | 'U' => some .swapGreed
  | 'u' => some .unicode
  | 'R' => some .crlf
  | 'x' => some .verbose
  | _ => none

/-- Reads flags up to a colon or a closing parenthesis.  No item is repeated, and a
dash is followed by a flag. -/
def flags (items : List FlagItem) : Nat → Parser (List FlagItem)
  | 0 => failure
  | fuel + 1 => do
    let c ← current
    if c = ':' || c = ')' then
      if items.getLast? = some .negation then failure
      return items
    else
      let item ← match c with
        | '-' => pure FlagItem.negation
        | c => match flag? c with
          | some f => pure (FlagItem.flag f)
          | none => failure
      if items.contains item then failure
      advance
      flags (items ++ [item]) fuel

/-- What a list of flags says about one of them. -/
def flagState (f : Flag) (value : Bool) : List FlagItem → Option Bool
  | [] => none
  | .negation :: rest => flagState f false rest
  | .flag g :: rest => if f = g then some value else flagState f value rest

/-- Whether a character may stand in the name of a group. -/
def isNameChar (first : Bool) (c : Char) : Bool :=
  c = '_' || Unicode.isAlphabetic c ||
    (!first && (c = '.' || c = '[' || c = ']' || Unicode.isNumeric c))

/-- Reads the name of a group up to its closing angle bracket. -/
def groupName : Parser String := do
  let s ← get
  let name := s.rest.takeWhile (· ≠ '>')
  match name, s.rest.dropWhile (· ≠ '>') with
  | c :: cs, _ :: rest =>
    let text := String.ofList name
    if !isNameChar true c || !cs.all (isNameChar false) || s.names.contains text then failure
    set { s with rest, names := text :: s.names }
    return text
  | _, _ => failure

/-- The number of a new capturing group. -/
def newCapture : Parser Nat := do
  let s ← get
  set { s with captures := s.captures + 1 }
  return s.captures + 1

/-- The opening of a group: it changes flags for what follows, or it starts a group. -/
inductive Opening where
  | flags (items : List FlagItem)
  | group (kind : GroupKind)

/-- Reads the opening of a group. -/
def groupOpening : Parser Opening := do
  advance
  skipBlanks
  let s ← get
  if ["?=", "?!", "?<=", "?<!"].any (startsWith · s.rest) then failure
  if ← accept "?P<" then
    let index ← newCapture
    let name ← groupName
    return .group (.capture index (some name))
  else if ← accept "?<" then
    let index ← newCapture
    let name ← groupName
    return .group (.capture index (some name))
  else if ← accept "?" then
    let items ← flags [] (← left)
    let c ← current
    advance
    if c = ')' then
      if items.isEmpty then failure
      return .flags items
    else return .group (.plain items)
  else
    let index ← newCapture
    return .group (.capture index none)

/-- Sets verbose mode as a list of flags says. -/
def applyVerbose (items : List FlagItem) : Parser Unit :=
  modify (fun s => { s with verbose := (flagState .verbose true items).getD s.verbose })

/-! ## Patterns -/

/-- One branch or several. -/
def ofBranches : List Ast → Ast
  | [a] => a
  | branches => .alternation branches

/-- Reads alternatives up to a closing parenthesis or the end.  `branches` holds the
finished branches and `parts` the parts of the current one, both in reverse. -/
def body (fuel : Nat) (branches parts : List Ast) : Parser Ast :=
  match fuel with
  | 0 => failure
  | fuel + 1 => do
    skipBlanks
    match ← peek with
    | none => return ofBranches (Ast.ofParts parts.reverse :: branches).reverse
    | some ')' => return ofBranches (Ast.ofParts parts.reverse :: branches).reverse
    | some '|' =>
      advance
      body fuel (Ast.ofParts parts.reverse :: branches) []
    | some '(' =>
      match ← groupOpening with
      | .flags items =>
        applyVerbose items
        body fuel branches (.flags items :: parts)
      | .group kind =>
        let verbose := (← get).verbose
        match kind with
        | .plain items => applyVerbose items
        | .capture _ _ => pure ()
        let inner ← body fuel [] []
        if (← current) ≠ ')' then failure
        advance
        modify (fun s => { s with verbose })
        body fuel branches (.group kind inner :: parts)
    | some '[' =>
      match ← bracket with
      | .bracket negated set => body fuel branches (.bracket negated set :: parts)
      | _ => failure
    | some '\x7b' =>
      let (a, rest) ← repeated parts
      let (min, max) ← countedRepetition
      let lazy ← isLazy
      body fuel branches (.repetition min max (!lazy) a :: rest)
    | some c =>
      if c = '?' || c = '*' || c = '+' then
        let (a, rest) ← repeated parts
        advance
        let lazy ← isLazy
        let min := if c = '+' then 1 else 0
        let max := if c = '?' then some 1 else none
        body fuel branches (.repetition min max (!lazy) a :: rest)
      else
        let p ← primitive
        body fuel branches (p.toAst :: parts)

end Parser

/-- Reads a whole pattern. -/
def Ast.parse? (pattern : String) : Option Ast :=
  let cs := pattern.toList
  match (Parser.body (cs.length + 1) [] []).run ⟨cs, false, 0, []⟩ with
  | some (ast, cursor) =>
    if cursor.rest.isEmpty && ast.depth ≤ depthLimit then some ast else none
  | none => none

end EditWaves.Pattern
