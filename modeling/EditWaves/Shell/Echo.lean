import EditWaves.Shell.Machine

/-!
# Printing with escapes

The texts of `echo` and the formats of `printf`.  Both know escapes after a
backslash; an octal number gives a byte, which need not be a character.
-/

namespace EditWaves.Shell

/-- The byte of a one-letter escape. -/
def letterEscape? (c : Char) : Option UInt8 :=
  if c = 'a' then some 7
  else if c = 'b' then some 8
  else if c = 'f' then some 12
  else if c = 'n' then some 10
  else if c = 'r' then some 13
  else if c = 't' then some 9
  else if c = 'v' then some 11
  else if c = '\\' then some 92
  else none

/-- Whether a character is an octal digit. -/
def isOctal (c : Char) : Bool := '0' ≤ c && c ≤ '7'

/-- The value of octal digits as a byte. -/
def octalByte (ds : List Char) : UInt8 :=
  (ds.foldl (fun n c => n * 8 + (c.toNat - '0'.toNat)) 0).toUInt8

/-- The bytes of one character. -/
def charBytes (c : Char) : List UInt8 := Text.Utf8.encode c.toString

/-- The bytes of a text with escapes, and whether `\c` cut it off.  Octal numbers
start with a zero. -/
def echoBytes : Nat → List Char → List UInt8 × Bool
  | 0, _ => ([], false)
  | _, [] => ([], false)
  | fuel + 1, '\\' :: c :: rest =>
    let (bytes, rest) : List UInt8 × Option (List Char) :=
      match letterEscape? c with
      | some b => ([b], some rest)
      | none =>
        if c = 'c' then ([], none)
        else if c = '0' then
          let ds := (rest.take 3).takeWhile isOctal
          ([octalByte ds], some (rest.drop ds.length))
        else (92 :: charBytes c, some rest)
    match rest with
    | none => (bytes, true)
    | some rest =>
      let (more, cut) := echoBytes fuel rest
      (bytes ++ more, cut)
  | fuel + 1, c :: rest =>
    let (more, cut) := echoBytes fuel rest
    (charBytes c ++ more, cut)

/-- Prints arguments with blanks between them; `escapes` tells whether backslashes mean
something and `line` whether the line ends. -/
def printWords (escapes line : Bool) (words : List String) (m : Machine) : Machine × Flow :=
  let text := " ".intercalate words
  let (bytes, cut) :=
    if escapes then echoBytes (text.length + 1) text.toList else (Text.Utf8.encode text, false)
  (m.print 1 (if line && !cut then bytes ++ [10] else bytes)).done 0

/-- The `echo` of the shell: it knows one flag, and backslashes always mean something. -/
def shellEcho : List String → Machine → Machine × Flow
  | "-n" :: words => printWords true false words
  | words => printWords true true words

/-- Whether an argument is a group of flags of the program `echo`. -/
def isEchoFlags (argument : String) : Bool :=
  match argument.toList with
  | '-' :: c :: rest => (c :: rest).all (fun c => c = 'n' || c = 'e' || c = 'E')
  | _ => false

/-- The program `echo`: backslashes mean something after the flag `e`. -/
def echo (arguments : List String) : Machine → Machine × Flow :=
  let flags := (arguments.takeWhile isEchoFlags).flatMap String.toList
  let escapes := (flags.filter (· ≠ 'n')).getLast? = some 'e'
  printWords escapes (!flags.contains 'n') (arguments.dropWhile isEchoFlags)

/-- The number that an argument of a format stands for. -/
def formatNumber (s : String) : Int := s.toInt?.getD 0

/-- A place for an argument in a format. -/
structure Placeholder where
  flags : List Char
  width : Nat
  precision : Option Nat
  kind : Char

/-- The value of decimal digits. -/
def decimal (ds : List Char) : Nat := ds.foldl (fun n c => n * 10 + (c.toNat - '0'.toNat)) 0

/-- Reads a place for an argument after its percent sign. -/
def readPlaceholder (cs : List Char) : Option (Placeholder × List Char) :=
  let isFlag (c : Char) : Bool := c = '-' || c = '0'
  let flags := cs.takeWhile isFlag
  let cs := cs.dropWhile isFlag
  let width := decimal (cs.takeWhile Char.isDigit)
  match cs.dropWhile Char.isDigit with
  | '.' :: rest =>
    match rest.dropWhile Char.isDigit with
    | kind :: after => some (⟨flags, width, some (decimal (rest.takeWhile Char.isDigit)), kind⟩, after)
    | [] => none
  | kind :: after => some (⟨flags, width, none, kind⟩, after)
  | [] => none

/-- The text of an argument in a format before it is filled up. -/
def formatArgument (p : Placeholder) (argument : String) : List UInt8 :=
  let shortened (bytes : List UInt8) : List UInt8 :=
    match p.precision with
    | some n => bytes.take n
    | none => bytes
  let number (digits : List Char) : List UInt8 := Text.Utf8.encode (String.ofList digits)
  match p.kind with
  | 's' => shortened (Text.Utf8.encode argument)
  | 'b' => shortened (echoBytes (argument.length + 1) argument.toList).1
  | 'c' => Text.Utf8.encode (String.ofList (argument.toList.take 1))
  | 'x' => number (Nat.toDigits 16 (formatNumber argument).toNat)
  | 'o' => number (Nat.toDigits 8 (formatNumber argument).toNat)
  | _ => Text.Utf8.encode (toString (formatNumber argument))

/-- The text of an argument, filled up to its width. -/
def formatPlaceholder (p : Placeholder) (argument : String) : List UInt8 :=
  let bytes := formatArgument p argument
  let missing := p.width - bytes.length
  if p.flags.contains '-' then bytes ++ List.replicate missing 32
  else if p.flags.contains '0' && p.kind ≠ 's' then List.replicate missing 48 ++ bytes
  else List.replicate missing 32 ++ bytes

/-- One pass over a format: the bytes and the arguments that are left. -/
def formatBytes (bytes : List UInt8) (arguments : List String) :
    Nat → List Char → List UInt8 × List String
  | 0, _ => (bytes, arguments)
  | _, [] => (bytes, arguments)
  | fuel + 1, '%' :: '%' :: rest => formatBytes (bytes ++ [37]) arguments fuel rest
  | fuel + 1, '%' :: rest =>
    match readPlaceholder rest with
    | some (p, rest) =>
      let argument := formatPlaceholder p (arguments.headD "")
      formatBytes (bytes ++ argument) arguments.tail fuel rest
    | none => (bytes, arguments)
  | fuel + 1, '\\' :: c :: rest =>
    match letterEscape? c with
    | some b => formatBytes (bytes ++ [b]) arguments fuel rest
    | none =>
      if isOctal c then
        let ds := ((c :: rest).take 3).takeWhile isOctal
        formatBytes (bytes ++ [octalByte ds]) arguments fuel ((c :: rest).drop ds.length)
      else formatBytes (bytes ++ 92 :: charBytes c) arguments fuel rest
  | fuel + 1, c :: rest => formatBytes (bytes ++ charBytes c) arguments fuel rest

/-- Repeats a format as long as it uses up arguments. -/
def formatAll (format : List Char) : Nat → List String → List UInt8
  | 0, _ => []
  | fuel + 1, arguments =>
    let (bytes, left) := formatBytes [] arguments (format.length + 1) format
    if left.isEmpty || left.length = arguments.length then bytes
    else bytes ++ formatAll format fuel left

/-- Prints arguments in a format. -/
def printf (arguments : List String) (m : Machine) : Machine × Flow :=
  match arguments with
  | [] => m.complain "printf: usage: printf format [arg ...]" 2
  | format :: arguments =>
    (m.print 1 (formatAll format.toList (arguments.length + 1) arguments)).done 0

end EditWaves.Shell
