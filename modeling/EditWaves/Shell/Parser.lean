import EditWaves.Shell.Token

/-!
# Reading scripts
-/

namespace EditWaves.Shell

/-- The text of a word without quotes and expansions. -/
def plainText? : Word → Option String
  | [.text s false] => some s
  | _ => none

/-- The next token as a keyword. -/
def keyword? : List Token → Option String
  | .word w :: _ => plainText? w
  | _ => none

/-- Drops the ends of lines. -/
def dropLineEnds : List Token → List Token
  | .operator "\n" :: rest => dropLineEnds rest
  | ts => ts

/-- Drops a keyword, which has to come next. -/
def expect (name : String) (ts : List Token) : Option (List Token) :=
  if keyword? (dropLineEnds ts) = some name then some (dropLineEnds ts).tail else none

/-- The words at which a list of commands ends. -/
def closers : List String := ["then", "else", "elif", "fi", "do", "done", "\x7d"]

/-- Whether a list of commands ends here. -/
def atEnd (ts : List Token) : Bool :=
  match ts with
  | [] | .operator ")" :: _ | .operator ";;" :: _ => true
  | _ =>
    match keyword? ts with
    | some word => closers.contains word
    | none => false

/-- An assignment, if a word is one. -/
def assignment? (w : Word) : Option (String × Word) :=
  match w with
  | .text s false :: rest =>
    let name := s.toList.takeWhile (· ≠ '=')
    match s.toList.dropWhile (· ≠ '=') with
    | '=' :: value =>
      if isName (String.ofList name) then
        let first := if value = [] then [] else [Piece.text (String.ofList value) false]
        some (String.ofList name, first ++ rest)
      else none
    | _ => none
  | _ => none

/-- Reads the redirections after a compound command. -/
def readRedirects : List Token → List Redirect × List Token
  | .redirect stream direction :: .word w :: rest =>
    let (redirects, rest) := readRedirects rest
    (⟨stream, direction, w⟩ :: redirects, rest)
  | ts => ([], ts)

/-- A simple command that has been read in part. -/
structure SimpleParts where
  assignments : List (String × Word)
  words : List Word
  redirects : List Redirect

/-- Reads the parts of a simple command. -/
def readSimple (p : SimpleParts) : List Token → SimpleParts × List Token
  | .redirect stream direction :: .word w :: rest =>
    readSimple { p with redirects := p.redirects ++ [⟨stream, direction, w⟩] } rest
  | .word w :: rest =>
    match if p.words.isEmpty then assignment? w else none with
    | some a => readSimple { p with assignments := p.assignments ++ [a] } rest
    | none => readSimple { p with words := p.words ++ [w] } rest
  | ts => (p, ts)

/-- Reads the words of a loop up to the end of the line. -/
def readLoopWords : List Token → List Word × List Token
  | .word w :: rest =>
    let (words, rest) := readLoopWords rest
    (w :: words, rest)
  | .operator _ :: rest => ([], rest)
  | ts => ([], ts)

mutual

/-- Reads commands up to the end of a list. -/
def readList (fuel : Nat) (ts : List Token) : Option (Command × List Token) :=
  match fuel with
  | 0 => none
  | fuel + 1 =>
    let ts := dropLineEnds ts
    if atEnd ts then some (.skip, ts)
    else do
      let (first, ts) ← readAndOr fuel ts
      match ts with
      | .operator name :: rest =>
        if name = ";" || name = "\n" || name = "&" then
          let (second, ts) ← readList fuel rest
          some (.sequence first second, ts)
        else some (first, ts)
      | ts => some (first, ts)

/-- Reads commands joined by `&&` and `||`. -/
def readAndOr (fuel : Nat) (ts : List Token) : Option (Command × List Token) :=
  match fuel with
  | 0 => none
  | fuel + 1 => do
    let (first, ts) ← readPipeline fuel ts
    readAndOrRest fuel first ts

/-- Reads what follows the first of such commands. -/
def readAndOrRest (fuel : Nat) (first : Command) (ts : List Token) :
    Option (Command × List Token) :=
  match fuel with
  | 0 => none
  | fuel + 1 =>
    match ts with
    | .operator "&&" :: rest => do
      let (second, ts) ← readPipeline fuel (dropLineEnds rest)
      readAndOrRest fuel (.both first second) ts
    | .operator "||" :: rest => do
      let (second, ts) ← readPipeline fuel (dropLineEnds rest)
      readAndOrRest fuel (.either first second) ts
    | ts => some (first, ts)

/-- Reads commands joined by `|`. -/
def readPipeline (fuel : Nat) (ts : List Token) : Option (Command × List Token) :=
  match fuel with
  | 0 => none
  | fuel + 1 => do
    if keyword? ts = some "!" then
      let (c, ts) ← readPipeline fuel ts.tail
      some (.negated c, ts)
    else
      let (left, ts) ← readCommand fuel ts
      match ts with
      | .operator "|" :: rest =>
        let (right, ts) ← readPipeline fuel (dropLineEnds rest)
        some (.pipe left right, ts)
      | ts => some (left, ts)

/-- Reads one command. -/
def readCommand (fuel : Nat) (ts : List Token) : Option (Command × List Token) :=
  match fuel with
  | 0 => none
  | fuel + 1 =>
    match ts with
    | .operator "(" :: rest => do
      let (body, ts) ← readList fuel rest
      match ts with
      | .operator ")" :: rest =>
        let (redirects, ts) := readRedirects rest
        some (.subshell body redirects, ts)
      | _ => none
    | ts =>
      match keyword? ts with
      | some "\x7b" => do
        let (body, ts) ← readList fuel ts.tail
        let (redirects, ts) := readRedirects (← expect "\x7d" ts)
        some (.group body redirects, ts)
      | some "if" => do
        let (c, ts) ← readBranch fuel ts.tail
        let (redirects, ts) := readRedirects ts
        some (.group c redirects, ts)
      | some "while" => readLoop fuel true ts.tail
      | some "until" => readLoop fuel false ts.tail
      | some "for" =>
        match ts.tail with
        | .word name :: rest => do
          let (words, ts) := readLoopWords (← expect "in" rest)
          let (body, ts) ← readList fuel (← expect "do" ts)
          let (redirects, ts) := readRedirects (← expect "done" ts)
          some (.group (.each (← plainText? name) words body) redirects, ts)
        | _ => none
      | _ =>
        let (p, after) := readSimple ⟨[], [], []⟩ ts
        if after.length = ts.length then none
        else some (.simple p.assignments p.words p.redirects, after)

/-- Reads a branch after `if` or `elif`. -/
def readBranch (fuel : Nat) (ts : List Token) : Option (Command × List Token) :=
  match fuel with
  | 0 => none
  | fuel + 1 => do
    let (condition, ts) ← readList fuel ts
    let (yes, ts) ← readList fuel (← expect "then" ts)
    match keyword? ts with
    | some "elif" =>
      let (no, ts) ← readBranch fuel ts.tail
      some (.branch condition yes no, ts)
    | some "else" =>
      let (no, ts) ← readList fuel ts.tail
      some (.branch condition yes no, ← expect "fi" ts)
    | _ => some (.branch condition yes .skip, ← expect "fi" ts)

/-- Reads a loop after its first word. -/
def readLoop (fuel : Nat) (success : Bool) (ts : List Token) : Option (Command × List Token) :=
  match fuel with
  | 0 => none
  | fuel + 1 => do
    let (condition, ts) ← readList fuel ts
    let (body, ts) ← readList fuel (← expect "do" ts)
    let (redirects, ts) := readRedirects (← expect "done" ts)
    some (.group (.loop success condition body) redirects, ts)

end

/-- The command of a script, if the script can be read. -/
def parse? (script : String) : Option Command := do
  let ts ← tokens (script.length + 1) script.toList
  match ← readList (6 * ts.length + 6) ts with
  | (c, []) => some c
  | _ => none

end EditWaves.Shell
