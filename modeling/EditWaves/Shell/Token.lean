import EditWaves.Shell.Syntax

/-!
# Tokens of scripts

A script is cut into words, operators and redirections.  Quotes, backslashes and
expansions are part of words.
-/

namespace EditWaves.Shell

/-- A token of a script. -/
inductive Token where
  | word (w : Word)
  /-- An operator; the end of a line is one. -/
  | operator (name : String)
  /-- The start of a redirection, which the next word completes. -/
  | redirect (stream : Nat) (direction : Direction)
deriving Repr, BEq, DecidableEq, Inhabited

/-- Whether a character ends a word. -/
def endsWord (c : Char) : Bool :=
  c = ' ' || c = '\t' || c = '\n' || c = ';' || c = '&' || c = '|' || c = '<' || c = '>' ||
    c = '(' || c = ')'

/-- What a search for a closing bracket finds: the text before it and the rest. -/
abbrev Enclosed := Option (List Char × List Char)

/-- Puts a character before what is found later. -/
def Enclosed.before (c : Char) (e : Enclosed) : Enclosed := e.map (fun r => (c :: r.1, r.2))

/-- The text up to the bracket that closes; `quote` is the quote that is open. -/
def untilClosed (depth : Nat) (quote : Option Char) : List Char → Enclosed
  | [] => none
  | '\\' :: c :: rest =>
    if quote = some tick then
      .before '\\' (untilClosed depth (if c = tick then none else quote) rest |>.before c)
    else .before '\\' (.before c (untilClosed depth quote rest))
  | c :: rest =>
    match quote with
    | some q => .before c (untilClosed depth (if c = q then none else some q) rest)
    | none =>
      if c = tick || c = '"' then .before c (untilClosed depth (some c) rest)
      else if c = '(' then .before c (untilClosed (depth + 1) none rest)
      else if c = ')' then
        match depth with
        | 0 => some ([], rest)
        | depth + 1 => .before c (untilClosed depth none rest)
      else .before c (untilClosed depth none rest)

/-- The text up to a character. -/
def untilChar (stop : Char) : List Char → Enclosed
  | [] => none
  | c :: rest => if c = stop then some ([], rest) else .before c (untilChar stop rest)

/-- A variable in braces: its name, and a fallback after `:-`. -/
def bracedVariable (quoted : Bool) (body : List Char) : Option Piece :=
  let name := String.ofList (body.takeWhile (fun c => isNameChar c || c = '?' || c = '$'))
  match body.dropWhile (fun c => isNameChar c || c = '?' || c = '$') with
  | [] => some (.variable name "" quoted)
  | ':' :: '-' :: fallback => some (.variable name (String.ofList fallback) quoted)
  | _ => none

/-- Reads what follows a dollar sign. -/
def readDollar (quoted : Bool) (cs : List Char) : Option (Piece × List Char) :=
  match cs with
  | '(' :: '(' :: rest =>
    match untilClosed 0 none rest with
    | some (body, ')' :: after) => some (.arithmetic (String.ofList body) quoted, after)
    | _ => none
  | '(' :: rest =>
    (untilClosed 0 none rest).map (fun r => (.output (String.ofList r.1) quoted, r.2))
  | '{' :: rest => do
    let (body, after) ← untilChar '}' rest
    some (← bracedVariable quoted body, after)
  | c :: rest =>
    if isNameStart c then
      some (.variable (String.ofList (c :: rest.takeWhile isNameChar)) "" quoted,
        rest.dropWhile isNameChar)
    else if c.isDigit || c = '$' || c = '?' || c = '#' || c = '@' || c = '*' then
      some (.variable c.toString "" quoted, rest)
    else some (.text "$" quoted, cs)
  | [] => some (.text "$" quoted, [])

/-- Reads the inside of double quotes. -/
def readQuoted (pieces : List Piece) : Nat → List Char → Option (List Piece × List Char)
  | 0, _ => none
  | _, [] => none
  | fuel + 1, c :: rest =>
    if c = '"' then some (pieces, rest)
    else if c = '$' then
      match readDollar true rest with
      | some (piece, rest) => readQuoted (pieces ++ [piece]) fuel rest
      | none => none
    else if c = backtick then
      match untilChar backtick rest with
      | some (body, rest) =>
        readQuoted (pieces ++ [.output (String.ofList body) true]) fuel rest
      | none => none
    else if c = '\\' then
      match rest with
      | '\n' :: rest => readQuoted pieces fuel rest
      | d :: rest =>
        let escapes := d = '$' || d = '"' || d = '\\' || d = backtick
        let s := if escapes then d.toString else String.ofList ['\\', d]
        readQuoted (pieces ++ [.text s true]) fuel rest
      | [] => none
    else readQuoted (pieces ++ [.text c.toString true]) fuel rest

/-- Reads a word. -/
def readWord (pieces : List Piece) : Nat → List Char → Option (Word × List Char)
  | 0, _ => none
  | _, [] => some (pieces, [])
  | fuel + 1, c :: rest =>
    if endsWord c then some (pieces, c :: rest)
    else if c = tick then
      match untilChar tick rest with
      | some (body, rest) => readWord (pieces ++ [.text (String.ofList body) true]) fuel rest
      | none => none
    else if c = '"' then
      match readQuoted [.text "" true] (rest.length + 1) rest with
      | some (inner, rest) => readWord (pieces ++ inner) fuel rest
      | none => none
    else if c = '$' then
      match readDollar false rest with
      | some (piece, rest) => readWord (pieces ++ [piece]) fuel rest
      | none => none
    else if c = backtick then
      match untilChar backtick rest with
      | some (body, rest) => readWord (pieces ++ [.output (String.ofList body) false]) fuel rest
      | none => none
    else if c = '\\' then
      match rest with
      | '\n' :: rest => readWord pieces fuel rest
      | d :: rest => readWord (pieces ++ [.text d.toString true]) fuel rest
      | [] => some (pieces ++ [.text "\\" true], [])
    else
      let plain (c : Char) : Bool :=
        !(endsWord c || c = tick || c = '"' || c = '$' || c = backtick || c = '\\')
      readWord (pieces ++ [.text (String.ofList (c :: rest.takeWhile plain)) false]) fuel
        (rest.dropWhile plain)

/-- Reads the sign of a redirection of a stream. -/
def readRedirect (stream : Option Nat) (cs : List Char) : Option (Token × List Char) :=
  match cs with
  | '>' :: '>' :: rest => some (.redirect (stream.getD 1) .append, rest)
  | '>' :: '&' :: rest => some (.redirect (stream.getD 1) .duplicate, rest)
  | '>' :: '|' :: rest => some (.redirect (stream.getD 1) .into, rest)
  | '>' :: rest => some (.redirect (stream.getD 1) .into, rest)
  | '<' :: rest => some (.redirect (stream.getD 0) .source, rest)
  | _ => none

/-- Reads an operator. -/
def readOperator (cs : List Char) : Option (Token × List Char) :=
  match cs with
  | '&' :: '&' :: rest => some (.operator "&&", rest)
  | '|' :: '|' :: rest => some (.operator "||", rest)
  | ';' :: ';' :: rest => some (.operator ";;", rest)
  | c :: rest =>
    if c = '&' || c = '|' || c = ';' || c = '(' || c = ')' || c = '\n' then
      some (.operator c.toString, rest)
    else none
  | [] => none

/-- Cuts a script into tokens. -/
def tokens : Nat → List Char → Option (List Token)
  | 0, _ => none
  | _, [] => some []
  | fuel + 1, c :: rest =>
    if c = ' ' || c = '\t' then tokens fuel rest
    else if c = '#' then tokens fuel (rest.dropWhile (· ≠ '\n'))
    else if c = '\\' && rest.head? = some '\n' then tokens fuel rest.tail
    else
      let numbered := if c.isDigit then readRedirect (some (c.toNat - '0'.toNat)) rest else none
      match numbered <|> readRedirect none (c :: rest) <|> readOperator (c :: rest) with
      | some (token, rest) => (tokens fuel rest).map (token :: ·)
      | none =>
        match readWord [] (rest.length + 2) (c :: rest) with
        | some (w, rest) => (tokens fuel rest).map (.word w :: ·)
        | none => none

end EditWaves.Shell
