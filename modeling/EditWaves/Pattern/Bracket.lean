import EditWaves.Pattern.Escape

/-!
# Bracketed classes

A class in brackets lists characters, ranges, named classes and nested classes.
Between them `&&`, `--` and `~~` intersect, subtract and take the symmetric
difference; the operations have one rank and group to the left.
-/

namespace EditWaves.Pattern.Parser

/-- The names of the classes of seven-bit characters. -/
def asciiNames : List String :=
  ["alnum", "alpha", "ascii", "blank", "cntrl", "digit", "graph", "lower", "print", "punct",
   "space", "upper", "word", "xdigit"]

/-- Reads a class such as `[:alpha:]`, if one comes next. -/
def asciiClass? : Parser (Option ClassSet) := do
  let s ← get
  match s.rest with
  | '[' :: ':' :: cs =>
    let (negated, cs) := match cs with
      | '^' :: r => (true, r)
      | r => (false, r)
    let name := String.ofList (cs.takeWhile (· ≠ ':'))
    match cs.dropWhile (· ≠ ':') with
    | ':' :: ']' :: rest =>
      if asciiNames.contains name then
        set { s with rest }
        return some (.ascii name negated)
      else return none
    | _ => return none
  | _ => return none

/-- Reads a member of a class: one character or an escape. -/
def classItem : Parser Primitive := do
  let c ← current
  if c = '\\' then escape
  else
    advance
    return .literal c false

/-- The character of a member that may end a range. -/
def rangeEnd : Primitive → Parser Char
  | .literal c _ => return c
  | _ => failure

/-- Reads a member of a class or a range of two. -/
def classRange : Parser ClassSet := do
  let first ← classItem
  skipBlanks
  let c ← current
  let after ← peekSecondSkip
  if c ≠ '-' || after = some ']' || after = some '-' then
    match first.toClassSet? with
    | some set => return set
    | none => failure
  else
    advanceSkip
    let _ ← current
    let last ← classItem
    let lo ← rangeEnd first
    let hi ← rangeEnd last
    if hi < lo then failure
    return .range lo hi

/-- Drops the next character and blanks, and fails at the end of the pattern. -/
def advanceWithin : Parser Unit := do
  advanceSkip
  let _ ← current

/-- Reads dashes at the front of a class. -/
def leadingDashes : Nat → Parser (List ClassSet)
  | 0 => return []
  | fuel + 1 => do
    if (← current) = '-' then
      advanceWithin
      let sets ← leadingDashes fuel
      return .literal '-' false :: sets
    else return []

/-- Reads the opening of a class: whether it is negated, and the members that only
stand for themselves in this place. -/
def classOpening : Parser (Bool × List ClassSet) := do
  advanceWithin
  let negated := (← current) = '^'
  if negated then advanceWithin
  let dashes ← leadingDashes (← left)
  if dashes.isEmpty && (← current) = ']' then
    advanceWithin
    return (negated, [.literal ']' false])
  else return (negated, dashes)

/-- The set so far, with a pending operation applied. -/
def applyPending (pending : Option (SetOp × ClassSet)) (set : ClassSet) : ClassSet :=
  match pending with
  | some (op, left) => .binary op left set
  | none => set

/-- The operation that comes next in a class. -/
def setOp? (c : Char) (after : Option Char) : Option SetOp :=
  if c = '&' && after = some '&' then some .inter
  else if c = '-' && after = some '-' then some .diff
  else if c = '~' && after = some '~' then some .symmDiff
  else none

/-- Reads a class up to its closing bracket.  `pending` is the operation whose right
side is being read, `members` its members so far in reverse. -/
def classBody (fuel : Nat) (negated : Bool) (pending : Option (SetOp × ClassSet))
    (members : List ClassSet) : Parser ClassSet :=
  match fuel with
  | 0 => failure
  | fuel + 1 => do
    skipBlanks
    let c ← current
    let set := applyPending pending (ClassSet.ofSets members.reverse)
    if c = '[' then
      match ← asciiClass? with
      | some cls => classBody fuel negated pending (cls :: members)
      | none =>
        let (innerNegated, innerMembers) ← classOpening
        let inner ← classBody fuel innerNegated none innerMembers.reverse
        classBody fuel negated pending (inner :: members)
    else if c = ']' then
      advance
      return .bracket negated set
    else
      match setOp? c (← peekSecond) with
      | some op =>
        advance
        advance
        classBody fuel negated (some (op, set)) []
      | none =>
        let member ← classRange
        classBody fuel negated pending (member :: members)

/-- Reads a class in brackets. -/
def bracket : Parser ClassSet := do
  let fuel ← left
  let (negated, members) ← classOpening
  classBody fuel negated none members.reverse

end EditWaves.Pattern.Parser
