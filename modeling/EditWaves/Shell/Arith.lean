import EditWaves.Shell.Syntax

/-!
# Arithmetic of scripts

Integer expressions with the usual operators and brackets.  A name stands for the
value of a variable; division goes towards zero.
-/

namespace EditWaves.Shell.Arith

/-- The operators from the loosest to the tightest; in one level the longer ones come
first. -/
def levels : List (List String) :=
  [["||"], ["&&"], ["==", "!="], ["<=", ">=", "<", ">"], ["+", "-"], ["*", "/", "%"]]

/-- Drops blanks. -/
def dropBlanks (cs : List Char) : List Char :=
  cs.dropWhile (fun c => c = ' ' || c = '\t' || c = '\n')

/-- The operator of a level that comes next, and the rest. -/
def operator? (names : List String) (cs : List Char) : Option (String × List Char) :=
  match names.find? (fun n => n.toList.isPrefixOf cs) with
  | some n => some (n, cs.drop n.length)
  | none => none

/-- A truth value as a number. -/
def ofBool (b : Bool) : Int := if b then 1 else 0

/-- Applies an operator; division by zero has no value. -/
def apply (name : String) (a b : Int) : Option Int :=
  match name with
  | "||" => some (ofBool (a ≠ 0 || b ≠ 0))
  | "&&" => some (ofBool (a ≠ 0 && b ≠ 0))
  | "==" => some (ofBool (a = b))
  | "!=" => some (ofBool (a ≠ b))
  | "<=" => some (ofBool (a ≤ b))
  | ">=" => some (ofBool (b ≤ a))
  | "<" => some (ofBool (a < b))
  | ">" => some (ofBool (b < a))
  | "+" => some (a + b)
  | "-" => some (a - b)
  | "*" => some (a * b)
  | "/" => if b = 0 then none else some (Int.tdiv a b)
  | "%" => if b = 0 then none else some (Int.tmod a b)
  | _ => none

/-- The value of decimal digits. -/
def digits (cs : List Char) : Int :=
  cs.foldl (fun n c => n * 10 + (c.toNat - '0'.toNat : Nat)) 0

mutual

/-- Reads an expression of some levels of operators. -/
def readLevels (value : String → Int) (fuel : Nat) (levels : List (List String))
    (cs : List Char) : Option (Int × List Char) :=
  match fuel with
  | 0 => none
  | fuel + 1 =>
    match levels with
    | [] => readUnary value fuel (dropBlanks cs)
    | names :: tighter => do
      let (a, cs) ← readLevels value fuel tighter cs
      readRest value fuel names tighter a cs

/-- Reads the operands that follow the first one of a level. -/
def readRest (value : String → Int) (fuel : Nat) (names : List String)
    (tighter : List (List String)) (a : Int) (cs : List Char) : Option (Int × List Char) :=
  match fuel with
  | 0 => none
  | fuel + 1 =>
    match operator? names (dropBlanks cs) with
    | some (name, cs) => do
      let (b, cs) ← readLevels value fuel tighter cs
      readRest value fuel names tighter (← apply name a b) cs
    | none => some (a, dropBlanks cs)

/-- Reads a number, a name, or an expression with a sign or in brackets. -/
def readUnary (value : String → Int) (fuel : Nat) (cs : List Char) : Option (Int × List Char) :=
  match fuel with
  | 0 => none
  | fuel + 1 =>
    match cs with
    | '-' :: rest => do
      let (a, rest) ← readUnary value fuel (dropBlanks rest)
      some (-a, rest)
    | '+' :: rest => readUnary value fuel (dropBlanks rest)
    | '!' :: rest => do
      let (a, rest) ← readUnary value fuel (dropBlanks rest)
      some (ofBool (a = 0), rest)
    | '(' :: rest => do
      let (a, rest) ← readLevels value fuel levels rest
      match dropBlanks rest with
      | ')' :: rest => some (a, rest)
      | _ => none
    | c :: rest =>
      if c.isDigit then
        some (digits (c :: rest.takeWhile Char.isDigit), rest.dropWhile Char.isDigit)
      else if isNameStart c then
        some (value (String.ofList (c :: rest.takeWhile isNameChar)), rest.dropWhile isNameChar)
      else none
    | [] => none

end

/-- The value of an expression. -/
def eval (value : String → Int) (expression : String) : Option Int :=
  match readLevels value (10 * expression.length + 20) levels expression.toList with
  | some (a, rest) => if dropBlanks rest = [] then some a else none
  | none => none

end EditWaves.Shell.Arith
