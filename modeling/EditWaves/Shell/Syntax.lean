/-!
# Scripts

The scripts that commands are given as: words with quotes and expansions, simple
commands with redirections, and the ways to join commands.  The text of a command
substitution and of an arithmetic expression is kept as it stands and read when it
is needed.
-/

namespace EditWaves.Shell

/-- A part of a word.  What is quoted is not split into several words. -/
inductive Piece where
  | text (s : String) (quoted : Bool)
  /-- The value of a variable, or of the fallback if it is empty. -/
  | variable (name fallback : String) (quoted : Bool)
  /-- What a script prints. -/
  | output (script : String) (quoted : Bool)
  /-- The value of an arithmetic expression. -/
  | arithmetic (expression : String) (quoted : Bool)
deriving Repr, BEq, DecidableEq, Inhabited

/-- A word before its expansion. -/
abbrev Word := List Piece

/-- What a redirection does. -/
inductive Direction where
  | into
  | append
  | source
  /-- To where another stream goes. -/
  | duplicate
deriving Repr, BEq, DecidableEq, Inhabited

/-- A redirection of a stream. -/
structure Redirect where
  stream : Nat
  direction : Direction
  target : Word
deriving Repr, BEq, DecidableEq, Inhabited

/-- A command. -/
inductive Command where
  | skip
  | simple (assignments : List (String × Word)) (words : List Word) (redirects : List Redirect)
  | sequence (first second : Command)
  | both (first second : Command)
  | either (first second : Command)
  | negated (c : Command)
  | pipe (left right : Command)
  | branch (condition yes no : Command)
  /-- Repeats the body as long as the condition succeeds, or fails. -/
  | loop (success : Bool) (condition body : Command)
  | each (name : String) (words : List Word) (body : Command)
  | group (body : Command) (redirects : List Redirect)
  | subshell (body : Command) (redirects : List Redirect)
deriving Inhabited

/-- A single quote. -/
def tick : Char := Char.ofNat 39

/-- The quote that encloses a substitution. -/
def backtick : Char := Char.ofNat 96

/-- Whether a character may start a name. -/
def isNameStart (c : Char) : Bool := c.isAlpha || c = '_'

/-- Whether a character may stand in a name. -/
def isNameChar (c : Char) : Bool := c.isAlphanum || c = '_'

/-- Whether a text is a name. -/
def isName (s : String) : Bool :=
  match s.toList with
  | [] => false
  | c :: rest => isNameStart c && rest.all isNameChar

end EditWaves.Shell
