import EditWaves.Decimal.Binary

/-!
# The fewest digits that read back

`shortest` gives the decimal digits of a positive number with the fewest digits
among all decimals that round to it, and of those the nearest.  For one digit, two
digits and so on it tests the two neighbours of the number on that decimal grid.
A `Layout` says how digits are written: where positional writing ends and how an
exponent looks.
-/

namespace EditWaves.Decimal

/-- Digits and the power of ten of the first one. -/
structure Digits where
  /-- The digits, most significant first, without a zero at the end. -/
  digits : List Char
  /-- The power of ten that the first digit counts. -/
  exponent : Int
deriving Repr, BEq

/-- Whether `a / b ≤ c / d`. -/
def ratioLe (a b c d : Nat) : Bool := a * d ≤ c * b

/-- Whether `a / b < c / d`. -/
def ratioLt (a b c d : Nat) : Bool := a * d < c * b

/-- `value * 10 ^ e` as a fraction. -/
def scaleTen (value : Nat) (e : Int) : Nat × Nat :=
  if 0 ≤ e then (value * Nat.pow 10 e.toNat, 1) else (value, Nat.pow 10 (-e).toNat)

/-- Whether the decimal `value * 10 ^ e` rounds to `x`. -/
def readsBack (x : Binary) (value : Nat) (e : Int) : Bool :=
  let m := x.significand
  let q := x.exponent
  let (n, d) := scaleTen value e
  -- the middle between `x` and its neighbours, in quarters of a unit
  let below := if m = Binary.leastNormal && -1074 < q then 4 * m - 1 else 4 * m - 2
  let (ln, ld) := Binary.scale below 4 q
  let (hn, hd) := Binary.scale (4 * m + 2) 4 q
  if m % 2 = 0 then ratioLe ln ld n d && ratioLe n d hn hd
  else ratioLt ln ld n d && ratioLt n d hn hd

/-- The power of ten of the first digit of `n / d`, for `0 < n < d`. -/
def leadingBelowOne (n d : Nat) : Nat → Int → Int
  | 0, e => e
  | fuel + 1, e => if d ≤ n then e else leadingBelowOne (n * 10) d fuel (e - 1)

/-- The power of ten of the first digit of a positive number. -/
def leading (x : Binary) : Int :=
  let (n, d) := x.ratio
  if d ≤ n then ((Nat.toDigits 10 (n / d)).length : Int) - 1
  else leadingBelowOne n d 400 0

/-- The decimal with `count` digits nearest to `x` that reads back, if any does. -/
def onGrid (x : Binary) (lead : Int) (count : Nat) : Option (Nat × Int) :=
  let e := lead - (count : Int) + 1
  let (n, d) := x.ratio
  let (sn, sd) := scaleTen 1 (-e)
  let num := n * sn
  let den := d * sd
  let lower := num / den
  let okLower := lower ≠ 0 && readsBack x lower e
  let okUpper := readsBack x (lower + 1) e
  let lowerNearer := 2 * (num % den) < den || (2 * (num % den) = den && lower % 2 = 0)
  if okLower && (lowerNearer || !okUpper) then some (lower, e)
  else if okUpper then some (lower + 1, e)
  else none

/-- The first grid that holds a decimal for `x`, from `count` digits on. -/
def firstGrid (x : Binary) (lead : Int) : Nat → Nat → Nat × Int
  | 0, _ => (0, 0)
  | fuel + 1, count =>
    match onGrid x lead count with
    | some r => r
    | none => firstGrid x lead fuel (count + 1)

/-- Removes zeros from the end of a list of digits. -/
def stripZeros (ds : List Char) : List Char := (ds.reverse.dropWhile (· = '0')).reverse

/-- The fewest digits that read back as the positive number `x`. -/
def shortest (x : Binary) : Digits :=
  let (value, e) := firstGrid x (leading x) 17 1
  let ds := Nat.toDigits 10 value
  ⟨stripZeros ds, e + (ds.length : Int) - 1⟩

/-! ## Layouts -/

/-- How digits are written out. -/
structure Layout where
  /-- The exponents that are written positionally. -/
  positional : Int → Bool
  /-- The mark before an exponent that is not negative. -/
  plus : String

/-- Digits in positional writing, with a zero after the point if there is no other. -/
def positionalText (d : Digits) : String :=
  if d.exponent < 0 then
    "0." ++ "".pushn '0' (-d.exponent - 1).toNat ++ String.ofList d.digits
  else
    let whole := d.exponent.toNat + 1
    let before := d.digits.take whole ++ List.replicate (whole - d.digits.length) '0'
    let after := d.digits.drop whole
    String.ofList before ++ "." ++ (if after = [] then "0" else String.ofList after)

/-- Digits with an exponent. -/
def exponentText (plus : String) (d : Digits) : String :=
  let mark := if d.exponent < 0 then "-" else plus
  let tail := if d.digits.length ≤ 1 then "" else "." ++ String.ofList (d.digits.drop 1)
  String.ofList (d.digits.take 1) ++ tail ++ "e" ++ mark ++ toString d.exponent.natAbs

/-- The text of a finite number. -/
def Layout.render (layout : Layout) (x : Binary) : String :=
  let sign := if x.isNegative then "-" else ""
  if x.significand = 0 then sign ++ "0.0"
  else
    let d := shortest x
    sign ++ if layout.positional d.exponent then positionalText d else exponentText layout.plus d

end EditWaves.Decimal
