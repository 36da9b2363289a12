import EditWaves.Text.Hex

/-!
# Strings of configuration texts

A basic string stands in double quotes and has escapes, a literal string stands in
single quotes and has none; either may be written over several lines in triple
quotes.  Each reader starts after the opening quotes and gives the characters of
the string and what follows the closing quotes.
-/

namespace EditWaves.Toml

/-- What a reader gives: the characters and the rest of the text. -/
abbrev Chunk := Option (List Char × List Char)

/-- A single quote. -/
def tick : Char := Char.ofNat 39

/-- Whether a character may stand for itself in a comment or string. -/
def isPlain (c : Char) : Bool := c = '\t' || (' ' ≤ c && c.toNat ≠ 0x7F)

/-- Whether a character may stand for itself in a basic string. -/
def isBasic (c : Char) : Bool := isPlain c && c ≠ '"' && c ≠ '\\'

/-- Whether a character may stand for itself in a literal string. -/
def isLiteral (c : Char) : Bool := isPlain c && c ≠ tick

/-- The character of a one-letter escape. -/
def shortEscape? (c : Char) : Option Char :=
  if c = '"' || c = '\\' then some c
  else if c = 'b' then some (Char.ofNat 8)
  else if c = 'f' then some (Char.ofNat 12)
  else if c = 'n' then some '\n'
  else if c = 'r' then some '\r'
  else if c = 't' then some '\t'
  else none

/-- The character with a number, if there is one. -/
def char? (n : Nat) : Option Char :=
  if n < 0xD800 || (0xDFFF < n && n < 0x110000) then some (Char.ofNat n) else none

/-- The character of hexadecimal digits. -/
def hexEscape? (digits : List Char) : Option Char := do
  let values ← digits.mapM Text.hexDigit?
  char? (values.foldl (fun n d => n * 16 + d) 0)

/-- Puts a character before what is read later. -/
def before (c : Char) (chunk : Chunk) : Chunk := chunk.map (fun r => (c :: r.1, r.2))

/-- Puts an escaped character before what is read later. -/
def escaped (c : Option Char) (chunk : Chunk) : Chunk := c.bind (before · chunk)

/-- Reads a basic string. -/
def readBasic : List Char → Chunk
  | [] => none
  | '"' :: rest => some ([], rest)
  | '\\' :: 'u' :: a :: b :: c :: d :: rest => escaped (hexEscape? [a, b, c, d]) (readBasic rest)
  | '\\' :: 'U' :: a :: b :: c :: d :: e :: f :: g :: h :: rest =>
    escaped (hexEscape? [a, b, c, d, e, f, g, h]) (readBasic rest)
  | '\\' :: c :: rest => escaped (shortEscape? c) (readBasic rest)
  | c :: rest => if isBasic c then before c (readBasic rest) else none

/-- Reads a literal string. -/
def readLiteral : List Char → Chunk
  | [] => none
  | c :: rest =>
    if c = tick then some ([], rest)
    else if isLiteral c then before c (readLiteral rest)
    else none

/-- Whether a character is a blank within a line. -/
def isSpace (c : Char) : Bool := c = ' ' || c = '\t'

/-- Whether nothing but blanks stands before the end of the line. -/
def endsLine (cs : List Char) : Bool :=
  match cs.dropWhile isSpace with
  | '\n' :: _ | '\r' :: '\n' :: _ => true
  | _ => false

/-- Reads a basic string over several lines; `skipping` after a backslash that ends a
line. -/
def readLongBasic (skipping : Bool) : List Char → Chunk
  | [] => none
  | '"' :: '"' :: '"' :: '"' :: '"' :: rest => some (['"', '"'], rest)
  | '"' :: '"' :: '"' :: '"' :: rest => some (['"'], rest)
  | '"' :: '"' :: '"' :: rest => some ([], rest)
  | '\\' :: 'u' :: a :: b :: c :: d :: rest =>
    escaped (hexEscape? [a, b, c, d]) (readLongBasic false rest)
  | '\\' :: 'U' :: a :: b :: c :: d :: e :: f :: g :: h :: rest =>
    escaped (hexEscape? [a, b, c, d, e, f, g, h]) (readLongBasic false rest)
  | '\r' :: '\n' :: rest =>
    if skipping then readLongBasic true rest else before '\n' (readLongBasic false rest)
  | '\n' :: rest =>
    if skipping then readLongBasic true rest else before '\n' (readLongBasic false rest)
  | '\\' :: c :: rest =>
    if endsLine (c :: rest) then readLongBasic true (c :: rest)
    else escaped (shortEscape? c) (readLongBasic false rest)
  | c :: rest =>
    if skipping && isSpace c then readLongBasic true rest
    else if c = '"' || isBasic c then before c (readLongBasic false rest)
    else none

/-- Reads a literal string over several lines. -/
def readLongLiteral : List Char → Chunk
  | [] => none
  | '\r' :: '\n' :: rest => before '\n' (readLongLiteral rest)
  | '\n' :: rest => before '\n' (readLongLiteral rest)
  | c :: rest =>
    if c = tick then
      match rest with
      | d :: e :: f :: g :: after =>
        if d = tick && e = tick then
          if f = tick && g = tick then some ([tick, tick], after)
          else if f = tick then some ([tick], g :: after)
          else some ([], f :: g :: after)
        else before c (readLongLiteral (d :: e :: f :: g :: after))
      | [d, e, f] =>
        if d = tick && e = tick then
          if f = tick then some ([tick], []) else some ([], [f])
        else before c (readLongLiteral [d, e, f])
      | [d, e] => if d = tick && e = tick then some ([], []) else none
      | _ => none
    else if isPlain c then before c (readLongLiteral rest)
    else none

/-- Drops a line end at the front. -/
def dropLineEnd : List Char → List Char
  | '\r' :: '\n' :: rest => rest
  | '\n' :: rest => rest
  | cs => cs

/-- Reads a string with its opening quotes, if one starts here; `long` tells whether
triple quotes are known. -/
def readString? (long : Bool) (cs : List Char) : Option Chunk :=
  match cs with
  | '"' :: rest =>
    match rest with
    | '"' :: '"' :: after =>
      if long then some (readLongBasic false (dropLineEnd after)) else some (readBasic rest)
    | _ => some (readBasic rest)
  | c :: rest =>
    if c = tick then
      match rest with
      | d :: e :: after =>
        if long && d = tick && e = tick then some (readLongLiteral (dropLineEnd after))
        else some (readLiteral rest)
      | _ => some (readLiteral rest)
    else none
  | [] => none

end EditWaves.Toml
