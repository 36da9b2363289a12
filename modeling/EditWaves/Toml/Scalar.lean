import EditWaves.Toml.Value

/-!
# Numbers, dates and words of configuration texts

A scalar is one run of letters, digits and signs; only a date may be followed by a
blank and a time.  `readScalar` takes the run and says which value it is.
-/

namespace EditWaves.Toml

/-- Whether a character belongs to a run. -/
def isRun (c : Char) : Bool :=
  c.isAlphanum || c = '+' || c = '-' || c = '_' || c = '.' || c = ':'

/-- The digits of a run in which single underscores may separate digits. -/
def separated (p : Char → Bool) : List Char → Option (List Char)
  | [] => none
  | [c] => if p c then some [c] else none
  | c :: '_' :: rest => if p c then (separated p rest).map (c :: ·) else none
  | c :: rest => if p c then (separated p rest).map (c :: ·) else none

/-- The value of digits in a base. -/
def digitsValue (base : Nat) (ds : List Char) : Nat :=
  let value (c : Char) : Nat :=
    if c.isDigit then c.toNat - '0'.toNat
    else if 'a' ≤ c then c.toNat - 'a'.toNat + 10
    else c.toNat - 'A'.toNat + 10
  ds.foldl (fun n c => n * base + value c) 0

/-- Splits off a sign. -/
def splitSign : List Char → Bool × List Char
  | '-' :: rest => (true, rest)
  | '+' :: rest => (false, rest)
  | cs => (false, cs)

/-- Decimal digits without superfluous zeros. -/
def wholePart (cs : List Char) : Option (List Char) := do
  let ds ← separated Char.isDigit cs
  if ds.head? = some '0' && 1 < ds.length then none else some ds

/-- An integer of 64 bits. -/
def integer? (n : Int) : Option Toml :=
  if -9223372036854775808 ≤ n && n < 9223372036854775808 then some (.integer n) else none

/-- An integer in another base. -/
def basedInteger (base : Nat) (p : Char → Bool) (cs : List Char) : Option Toml := do
  let ds ← separated p cs
  integer? (digitsValue base ds)

/-- Whether a character is a hexadecimal digit. -/
def isHex (c : Char) : Bool := c.isDigit || ('a' ≤ c && c ≤ 'f') || ('A' ≤ c && c ≤ 'F')

/-- Reads an integer. -/
def readInteger (cs : List Char) : Option Toml :=
  match cs with
  | '0' :: 'x' :: rest => basedInteger 16 isHex rest
  | '0' :: 'o' :: rest => basedInteger 8 (fun c => '0' ≤ c && c ≤ '7') rest
  | '0' :: 'b' :: rest => basedInteger 2 (fun c => c = '0' || c = '1') rest
  | cs => do
    let (negative, cs) := splitSign cs
    let n : Int := digitsValue 10 (← wholePart cs)
    integer? (if negative then -n else n)

/-- Reads an exponent. -/
def readExponent : List Char → Option Int
  | [] => some 0
  | c :: rest =>
    if c = 'e' || c = 'E' then do
      let (negative, rest) := splitSign rest
      let n : Int := digitsValue 10 (← separated Char.isDigit rest)
      some (if negative then -n else n)
    else none

/-- A floating point number.  One that is too large is refused, but a negative one
becomes infinite. -/
def floatOf (negative : Bool) (digits : Nat) (e : Int) : Option Toml :=
  match Decimal.Binary.ofDecimal digits e with
  | some x => some (.float (if negative then x.neg else x))
  | none => if negative then some (.float Decimal.Binary.infinity.neg) else none

/-- Reads a floating point number with digits. -/
def readDigitsFloat (negative : Bool) (cs : List Char) : Option Toml := do
  let inWhole (c : Char) : Bool := c.isDigit || c = '_'
  let whole ← wholePart (cs.takeWhile inWhole)
  match cs.dropWhile inWhole with
  | '.' :: rest =>
    let fraction ← separated Char.isDigit (rest.takeWhile inWhole)
    let e ← readExponent (rest.dropWhile inWhole)
    floatOf negative (digitsValue 10 (whole ++ fraction)) (e - fraction.length)
  | [] => none
  | rest => floatOf negative (digitsValue 10 whole) (← readExponent rest)

/-- Reads a floating point number. -/
def readFloat (cs : List Char) : Option Toml :=
  let (negative, cs) := splitSign cs
  let signed (x : Decimal.Binary) : Toml := .float (if negative then x.neg else x)
  if cs = ['i', 'n', 'f'] then some (signed .infinity)
  else if cs = ['n', 'a', 'n'] then some (signed .undefined)
  else readDigitsFloat negative cs

/-! ## Dates and times -/

/-- The value of exactly two digits between bounds. -/
def twoDigits (lo hi : Nat) (a b : Char) : Option Nat :=
  if a.isDigit && b.isDigit then
    let n := digitsValue 10 [a, b]
    if lo ≤ n && n ≤ hi then some n else none
  else none

/-- The number of days of a month. -/
def daysOfMonth (year month : Nat) : Nat :=
  if month = 2 then
    if year % 4 = 0 && (year % 100 ≠ 0 || year % 400 = 0) then 29 else 28
  else if month = 4 || month = 6 || month = 9 || month = 11 then 30
  else 31

/-- Drops a date. -/
def dropDate : List Char → Option (List Char)
  | a :: b :: c :: d :: '-' :: e :: f :: '-' :: g :: h :: rest => do
    if [a, b, c, d].all Char.isDigit then
      let month ← twoDigits 1 12 e f
      let day ← twoDigits 1 31 g h
      if day ≤ daysOfMonth (digitsValue 10 [a, b, c, d]) month then some rest else none
    else none
  | _ => none

/-- Drops a fraction of a second. -/
def dropFraction : List Char → Option (List Char)
  | '.' :: c :: rest => if c.isDigit then some (rest.dropWhile Char.isDigit) else none
  | '.' :: [] => none
  | cs => some cs

/-- Drops a time of day. -/
def dropTime : List Char → Option (List Char)
  | a :: b :: ':' :: c :: d :: ':' :: e :: f :: rest => do
    let _ ← twoDigits 0 23 a b
    let _ ← twoDigits 0 59 c d
    let _ ← twoDigits 0 60 e f
    dropFraction rest
  | _ => none

/-- Whether characters are nothing or the distance of a time zone. -/
def isOffset : List Char → Bool
  | [] => true
  | [c] => c = 'Z' || c = 'z'
  | [s, a, b, ':', c, d] =>
    (s = '+' || s = '-') && (twoDigits 0 23 a b).isSome && (twoDigits 0 59 c d).isSome
  | _ => false

/-- Whether characters are a time of day with or without a time zone. -/
def isZonedTime (cs : List Char) : Bool :=
  match dropTime cs with
  | some rest => isOffset rest
  | none => false

/-- Whether a run is a date, a time, or both joined by a letter. -/
def isMoment (cs : List Char) : Bool :=
  match dropDate cs with
  | some [] => true
  | some (c :: rest) => (c = 'T' || c = 't') && isZonedTime rest
  | none => dropTime cs = some []

/-- Whether a time seems to follow. -/
def startsTime : List Char → Bool
  | a :: b :: ':' :: _ => a.isDigit && b.isDigit
  | _ => false

/-! ## Scalars -/

/-- The value of a run. -/
def scalar? (run : List Char) : Option Toml :=
  if run = ['t', 'r', 'u', 'e'] then some (.boolean true)
  else if run = ['f', 'a', 'l', 's', 'e'] then some (.boolean false)
  else if isMoment run then some .moment
  else
    match readFloat run with
    | some x => some x
    | none => readInteger run

/-- Reads a scalar. -/
def readScalar (cs : List Char) : Option (Toml × List Char) :=
  let run := cs.takeWhile isRun
  let rest := cs.dropWhile isRun
  match rest with
  | ' ' :: after =>
    if dropDate run = some [] && startsTime after then
      let time := after.takeWhile isRun
      if isZonedTime time then some (.moment, after.dropWhile isRun) else none
    else (scalar? run).map (·, rest)
  | _ => (scalar? run).map (·, rest)

end EditWaves.Toml
