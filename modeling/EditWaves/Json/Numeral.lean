import EditWaves.Json.Value

/-!
# JSON numerals

A numeral is an optional minus sign, an integer part without superfluous zeros, an
optional fraction and an optional exponent.  Integers that fit 64 bits stay
integers; every other numeral is a floating point number, got by scaling the
leading digits that fit 64 bits with a power of ten.  Both the digits and the
power are rounded, and their product or quotient is rounded again.
-/

namespace EditWaves.Json

open Decimal

/-- A numeral taken apart. -/
structure Numeral where
  negative : Bool
  whole : List Char
  fraction : List Char
  /-- Whether the numeral has a fraction or an exponent. -/
  isInteger : Bool
  exponentNegative : Bool
  exponent : List Char

/-- The largest integer of 64 bits. -/
def maxWord : Nat := 18446744073709551615

/-- The value of a decimal digit. -/
def digitValue (c : Char) : Nat := c.toNat - '0'.toNat

/-- The value of a list of decimal digits. -/
def digitsValue (ds : List Char) : Nat := ds.foldl (fun n c => n * 10 + digitValue c) 0

/-- Appends digits to a number as long as it fits 64 bits; the digits left over are
returned with it. -/
def takeDigits (n : Nat) : List Char → Nat × List Char
  | [] => (n, [])
  | d :: rest =>
    let next := n * 10 + digitValue d
    if maxWord < next then (n, d :: rest) else takeDigits next rest

/-- A power of ten, rounded. -/
def powerOfTen (n : Nat) : Binary := (Binary.ofRatio (Nat.pow 10 n) 1).getD .zero

/-- A number scaled by a power of ten in steps of at most `10 ^ 308`; `none` if the
result is too large. -/
def scaleBinary (x : Binary) : Nat → Int → Option Binary
  | 0, _ => some x
  | fuel + 1, e =>
    if e.natAbs ≤ 308 then
      if 0 ≤ e then x.mul? (powerOfTen e.natAbs) else x.div? (powerOfTen e.natAbs)
    else if x.significand = 0 then some x
    else if 0 ≤ e then none
    else
      match x.div? (powerOfTen 308) with
      | some y => scaleBinary y fuel (e + 308)
      | none => none

/-- The floating point number `digits * 10 ^ e`. -/
def floatOfParts (negative : Bool) (digits : Nat) (e : Int) : Option Number :=
  match (Binary.ofRatio digits 1).bind (fun x => scaleBinary x 16 e) with
  | some x => some (.float (if negative then x.neg else x))
  | none => none

/-- The largest exponent that is read as such. -/
def maxExponent : Nat := 2147483647

/-- The number of a numeral; `none` if it is too large. -/
def Numeral.value? (n : Numeral) : Option Number :=
  let (digits, left) := takeDigits 0 n.whole
  if n.isInteger && left = [] then
    if !n.negative then some (.int digits)
    else if digits = 0 || 9223372036854775808 < digits then floatOfParts true digits 0
    else some (.int (-digits))
  else
    let (digits, dropped) := takeDigits digits n.fraction
    let places : Int := left.length - (n.fraction.length - dropped.length : Nat)
    let exponent := digitsValue n.exponent
    if maxExponent < exponent then
      if digits ≠ 0 && !n.exponentNegative then none
      else some (.float (if n.negative then Binary.zero.neg else Binary.zero))
    else
      floatOfParts n.negative digits
        (if n.exponentNegative then places - exponent else places + exponent)

/-- The digits at the front of a list of characters, and the rest. -/
def spanDigits (cs : List Char) : List Char × List Char :=
  (cs.takeWhile Char.isDigit, cs.dropWhile Char.isDigit)

/-- Reads a fraction; `none` if a point has no digits after it. -/
def readFraction : List Char → Option (List Char × Bool × List Char)
  | '.' :: rest =>
    match spanDigits rest with
    | ([], _) => none
    | (ds, rest) => some (ds, true, rest)
  | rest => some ([], false, rest)

/-- Reads an exponent; `none` if it has no digits. -/
def readExponent (cs : List Char) : Option (Bool × List Char × Bool × List Char) :=
  match cs with
  | c :: rest =>
    if c = 'e' || c = 'E' then
      let (negative, rest) := match rest with
        | '-' :: r => (true, r)
        | '+' :: r => (false, r)
        | r => (false, r)
      match spanDigits rest with
      | ([], _) => none
      | (ds, rest) => some (negative, ds, true, rest)
    else some (false, [], false, c :: rest)
  | [] => some (false, [], false, [])

/-- Reads a numeral from the front of a list of characters. -/
def readNumeral (cs : List Char) : Option (Numeral × List Char) := do
  let (negative, cs) := match cs with
    | '-' :: r => (true, r)
    | r => (false, r)
  let (whole, cs) := spanDigits cs
  if whole = [] || (whole.head? = some '0' && 1 < whole.length) then none
  else
    let (fraction, hasFraction, cs) ← readFraction cs
    let (exponentNegative, exponent, hasExponent, cs) ← readExponent cs
    let numeral : Numeral :=
      { negative, whole, fraction, isInteger := !hasFraction && !hasExponent,
        exponentNegative, exponent }
    some (numeral, cs)

end EditWaves.Json
