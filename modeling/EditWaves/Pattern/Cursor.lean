import EditWaves.Pattern.Ast
import EditWaves.Text.Blank

/-!
# Reading characters of a pattern

A parser of patterns is a function from a `Cursor` to a result and the cursor
after it.  It fails without a reason: a pattern is either accepted or refused.
In verbose mode blanks and comments between the parts of a pattern are skipped.
-/

namespace EditWaves.Pattern

/-- Where a parser stands. -/
structure Cursor where
  rest : List Char
  /-- Whether blanks and comments are skipped. -/
  verbose : Bool
  /-- How many capturing groups have been opened. -/
  captures : Nat
  /-- The names of the groups so far. -/
  names : List String

/-- A parser of some part of a pattern. -/
abbrev Parser := StateT Cursor Option

namespace Parser

/-- The next character. -/
def peek : Parser (Option Char) := do return (← get).rest.head?

/-- The character after the next. -/
def peekSecond : Parser (Option Char) := do return (← get).rest.tail.head?

/-- Drops the next character. -/
def advance : Parser Unit := modify (fun s => { s with rest := s.rest.tail })

/-- The next character, which has to exist. -/
def current : Parser Char := do
  match (← get).rest with
  | c :: _ => return c
  | [] => failure

/-- Whether the characters begin with those of a word. -/
def startsWith (word : String) (cs : List Char) : Bool := word.toList.isPrefixOf cs

/-- Drops a word, if it comes next. -/
def accept (word : String) : Parser Bool := do
  let s ← get
  if startsWith word s.rest then
    set { s with rest := s.rest.drop word.length }
    return true
  else return false

/-- Drops blanks and comments. -/
def dropBlanks : Nat → List Char → List Char
  | 0, cs => cs
  | _, [] => []
  | fuel + 1, c :: rest =>
    if Text.isBlank c then dropBlanks fuel rest
    else if c = '#' then dropBlanks fuel ((rest.dropWhile (· ≠ '\n')).drop 1)
    else c :: rest

/-- Drops blanks and comments in verbose mode. -/
def skipBlanks : Parser Unit :=
  modify (fun s => if s.verbose then { s with rest := dropBlanks s.rest.length s.rest } else s)

/-- Drops the next character and then blanks. -/
def advanceSkip : Parser Unit := do
  advance
  skipBlanks

/-- The character after the next, blanks not counted. -/
def peekSecondSkip : Parser (Option Char) := do
  let s ← get
  let after := s.rest.tail
  return (if s.verbose then dropBlanks after.length after else after).head?

/-- Takes characters as long as they satisfy `p`, skipping blanks in between. -/
def takeWhileSkip (p : Char → Bool) : Nat → Parser (List Char)
  | 0 => return []
  | fuel + 1 => do
    match ← peek with
    | some c =>
      if p c then
        advanceSkip
        let cs ← takeWhileSkip p fuel
        return c :: cs
      else return []
    | none => return []

/-- How many characters are left. -/
def left : Parser Nat := do return (← get).rest.length

end Parser

end EditWaves.Pattern
