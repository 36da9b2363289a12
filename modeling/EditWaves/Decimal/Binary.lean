/-!
# Binary floating point

A `Binary` is a double precision number given by its 64 bits.  Finite numbers are
a significand times a power of two; `ofRatio` rounds a fraction of natural numbers
to the nearest one, a tie going to the even significand.  Everything is exact
arithmetic on natural numbers.
-/

namespace EditWaves.Decimal

/-- A double precision number by its bits. -/
structure Binary where
  bits : Nat
deriving Repr, BEq, DecidableEq, Inhabited

/-- The quotient of two natural numbers, rounded to the nearest; a tie goes to the
even neighbour. -/
def roundDiv (num den : Nat) : Nat :=
  let q := num / den
  let r := num % den
  if 2 * r < den then q
  else if den < 2 * r then q + 1
  else if q % 2 = 0 then q else q + 1

namespace Binary

/-- The least significand of 53 bits. -/
def leastNormal : Nat := 1 <<< 52

/-- Zero. -/
def zero : Binary := ⟨0⟩

/-- The positive infinite number. -/
def infinity : Binary := ⟨2047 <<< 52⟩

/-- Bits that stand for no number. -/
def undefined : Binary := ⟨(2047 <<< 52) + (1 <<< 51)⟩

/-- Whether the sign bit is set. -/
def isNegative (x : Binary) : Bool := (x.bits >>> 63) % 2 == 1

/-- The biased exponent. -/
def biased (x : Binary) : Nat := (x.bits >>> 52) % 2048

/-- The fraction bits. -/
def fraction (x : Binary) : Nat := x.bits % leastNormal

/-- Whether the number is neither infinite nor undefined. -/
def isFinite (x : Binary) : Bool := x.biased < 2047

/-- Whether the bits stand for no number. -/
def isNaN (x : Binary) : Bool := x.biased == 2047 && x.fraction != 0

/-- The significand of a finite number. -/
def significand (x : Binary) : Nat :=
  if x.biased = 0 then x.fraction else x.fraction + leastNormal

/-- The exponent of two by which the significand is scaled. -/
def exponent (x : Binary) : Int :=
  if x.biased = 0 then -1074 else (x.biased : Int) - 1075

/-- The number with the opposite sign. -/
def neg (x : Binary) : Binary :=
  if x.isNegative then ⟨x.bits - (1 <<< 63)⟩ else ⟨x.bits + (1 <<< 63)⟩

/-- A fraction of natural numbers scaled by a power of two. -/
def scale (num den : Nat) (e : Int) : Nat × Nat :=
  if 0 ≤ e then (num <<< e.toNat, den) else (num, den <<< (-e).toNat)

/-- The exponent of two for which the significand of `num / den` has 53 bits, but
not below the least one. -/
def exponentFor (num den : Nat) : Int :=
  let guess : Int := (num.log2 : Int) - (den.log2 : Int) - 52
  let (n, d) := scale num den (-guess)
  max (-1074) (if n < d * leastNormal then guess - 1 else guess)

/-- The number nearest to `num / den`, or `none` if that is too large. -/
def ofRatio (num den : Nat) : Option Binary :=
  if num = 0 then some zero
  else
    let e := exponentFor num den
    let (n, d) := scale num den (-e)
    let m := roundDiv n d
    let (m, e) := if m = 2 * leastNormal then (leastNormal, e + 1) else (m, e)
    if 971 < e then none
    else if m < leastNormal then some ⟨m⟩
    else some ⟨(e + 1075).toNat * leastNormal + (m - leastNormal)⟩

/-- The absolute value of a finite number as a fraction. -/
def ratio (x : Binary) : Nat × Nat := scale x.significand 1 x.exponent

/-- The nearest number to a product of two that are not negative. -/
def mul? (x y : Binary) : Option Binary :=
  ofRatio (x.ratio.1 * y.ratio.1) (x.ratio.2 * y.ratio.2)

/-- The nearest number to a quotient of two that are not negative. -/
def div? (x y : Binary) : Option Binary :=
  ofRatio (x.ratio.1 * y.ratio.2) (x.ratio.2 * y.ratio.1)

/-- The number nearest to `digits * 10 ^ e`, or `none` if that is too large. -/
def ofDecimal (digits : Nat) (e : Int) : Option Binary :=
  if digits = 0 then some zero
  else if 400 < e then none
  else if e + digits.log2 < -400 then some zero
  else if 0 ≤ e then ofRatio (digits * Nat.pow 10 e.toNat) 1
  else ofRatio digits (Nat.pow 10 (-e).toNat)

end Binary

end EditWaves.Decimal
