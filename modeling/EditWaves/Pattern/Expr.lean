import EditWaves.Pattern.Ast
import EditWaves.Pattern.Parser
import EditWaves.Pattern.Unicode.Class

/-!
# Expressions

An expression is a pattern after its flags have been applied: every character test
is a set, every assertion says exactly what it looks at.  `Expr.ofAst?` builds it.
It refuses classes that are not there, and, where Unicode is switched off,
everything that could match part of a character.
-/

namespace EditWaves.Pattern

open Text (CharSet)

/-- A condition on a position of a text. -/
inductive Look where
  | textStart
  | textEnd
  /-- After a line end; with `crlf` also after a carriage return. -/
  | lineStart (crlf : Bool)
  | lineEnd (crlf : Bool)
  /-- At an edge of a word, in Unicode or in seven-bit characters. -/
  | word (edge : WordEdge) (unicode : Bool)
deriving Repr, BEq, DecidableEq

/-- A pattern in which the flags have been applied. -/
inductive Expr where
  | empty
  | set (s : CharSet)
  | look (l : Look)
  | rep (min : Nat) (max : Option Nat) (greedy : Bool) (body : Expr)
  | capture (index : Nat) (name : Option String) (body : Expr)
  | concat (parts : List Expr)
  | alt (branches : List Expr)
deriving Inhabited

/-- The flags in force. -/
structure Flags where
  ignoreCase : Bool
  multiLine : Bool
  dotAll : Bool
  swapGreed : Bool
  unicode : Bool
  crlf : Bool

namespace Flags

/-- The flags at the start of a pattern. -/
def initial : Flags := ⟨false, false, false, false, true, false⟩

/-- The flags after a list of changes. -/
def apply (items : List FlagItem) (f : Flags) : Flags where
  ignoreCase := (Parser.flagState .ignoreCase true items).getD f.ignoreCase
  multiLine := (Parser.flagState .multiLine true items).getD f.multiLine
  dotAll := (Parser.flagState .dotAll true items).getD f.dotAll
  swapGreed := (Parser.flagState .swapGreed true items).getD f.swapGreed
  unicode := (Parser.flagState .unicode true items).getD f.unicode
  crlf := (Parser.flagState .crlf true items).getD f.crlf

end Flags

/-! ## Sets of characters -/

/-- The members of a class of seven-bit characters. -/
def asciiSet (name : String) : CharSet :=
  match name with
  | "alnum" => ⟨[(48, 57), (65, 90), (97, 122)]⟩
  | "alpha" => ⟨[(65, 90), (97, 122)]⟩
  | "ascii" => ⟨[(0, 127)]⟩
  | "blank" => ⟨[(9, 9), (32, 32)]⟩
  | "cntrl" => ⟨[(0, 31), (127, 127)]⟩
  | "digit" => ⟨[(48, 57)]⟩
  | "graph" => ⟨[(33, 126)]⟩
  | "lower" => ⟨[(97, 122)]⟩
  | "print" => ⟨[(32, 126)]⟩
  | "punct" => ⟨[(33, 47), (58, 64), (91, 96), (123, 126)]⟩
  | "space" => ⟨[(9, 13), (32, 32)]⟩
  | "upper" => ⟨[(65, 90)]⟩
  | "word" => ⟨[(48, 57), (65, 90), (95, 95), (97, 122)]⟩
  | "xdigit" => ⟨[(48, 57), (65, 70), (97, 102)]⟩
  | _ => .empty

/-- The members of a shorthand class. -/
def Shorthand.toSet (unicode : Bool) : Shorthand → CharSet
  | .digit => if unicode then Unicode.digits else asciiSet "digit"
  | .space => if unicode then Unicode.spaces else asciiSet "space"
  | .word => if unicode then Unicode.wordChars else asciiSet "word"

/-- A set of seven-bit characters with the other case of its letters. -/
def closeAscii (s : CharSet) : CharSet :=
  let letters := (List.range 26).flatMap (fun i =>
    (if s.mem (65 + i) then [(97 + i, 97 + i)] else []) ++
      (if s.mem (97 + i) then [(65 + i, 65 + i)] else []))
  CharSet.ofRuns (s.runs ++ letters)

/-- Closes a set under case, if case is ignored. -/
def Flags.foldCase (f : Flags) (s : CharSet) : CharSet :=
  if f.ignoreCase then if f.unicode then Unicode.closeUnderCase s else closeAscii s else s

/-- Complements a set; without Unicode the complement would match parts of
characters. -/
def Flags.negate? (f : Flags) (negated : Bool) (s : CharSet) : Option CharSet :=
  if negated then if f.unicode then some s.compl else none else some s

/-- The characters of a property, which is only there in Unicode. -/
def Flags.property? (f : Flags) (query : PropertyQuery) : Option CharSet :=
  if f.unicode then
    let found := match query.value with
      | some value => Unicode.valued? query.name value
      | none => Unicode.named? query.name
    found.bind (fun s => f.negate? query.negated (f.foldCase s))
  else none

/-- Whether a character can be written where Unicode is switched off. -/
def Flags.allows (f : Flags) (c : Char) : Bool := f.unicode || c.toNat < 128

mutual

/-- The characters of a set inside a bracketed class. -/
def ClassSet.toSet? (f : Flags) : ClassSet → Option CharSet
  | .empty => some .empty
  | .literal c _ => if f.allows c then some (.single c) else none
  | .range first last =>
    if f.allows last then some (CharSet.ofRuns [(first.toNat, last.toNat)]) else none
  | .ascii name negated => f.negate? negated (f.foldCase (asciiSet name))
  | .shorthand kind negated => f.negate? negated (kind.toSet f.unicode)
  | .property query => f.property? query
  | .bracket negated set => do
    let s ← set.toSet? f
    f.negate? negated (f.foldCase s)
  | .union sets => (ClassSet.toSets? f sets).map Unicode.unions
  | .binary op left right => do
    let left ← left.toSet? f
    let right ← right.toSet? f
    let left := f.foldCase left
    let right := f.foldCase right
    match op with
    | .inter => some (left.inter right)
    | .diff => some (left.diff right)
    | .symmDiff => some (left.symmDiff right)

/-- The characters of each of several sets. -/
def ClassSet.toSets? (f : Flags) : List ClassSet → Option (List CharSet)
  | [] => some []
  | set :: rest => do
    let s ← set.toSet? f
    let ss ← ClassSet.toSets? f rest
    some (s :: ss)

end

/-! ## Expressions -/

namespace Expr

mutual

/-- Whether an expression matches nothing but the empty text. -/
def onlyEmpty : Expr → Bool
  | .empty => true
  | .look _ => true
  | .set _ => false
  | .rep _ _ _ body => body.onlyEmpty
  | .capture _ _ body => body.onlyEmpty
  | .concat parts => allOnlyEmpty parts
  | .alt branches => allOnlyEmpty branches

/-- `onlyEmpty` for all of several expressions. -/
def allOnlyEmpty : List Expr → Bool
  | [] => true
  | e :: rest => e.onlyEmpty && allOnlyEmpty rest

end

mutual

/-- Whether every match of an expression has a character. -/
def consumes : Expr → Bool
  | .empty => false
  | .look _ => false
  | .set s => !s.isEmpty
  | .rep min _ _ body => 0 < min && body.consumes
  | .capture _ _ body => body.consumes
  | .concat parts => anyConsumes parts
  | .alt branches => allConsume branches

/-- `consumes` for one of several expressions. -/
def anyConsumes : List Expr → Bool
  | [] => false
  | e :: rest => e.consumes || anyConsumes rest

/-- `consumes` for all of several expressions. -/
def allConsume : List Expr → Bool
  | [] => true
  | e :: rest => e.consumes && allConsume rest

end

/-- A repetition.  What matches only the empty text is not repeated more than once,
a repetition of no times is empty and one of exactly one time is its body. -/
def repeated (min : Nat) (max : Option Nat) (greedy : Bool) (body : Expr) : Expr :=
  let (min, max) :=
    if body.onlyEmpty then (Nat.min min 1, some (Nat.min (max.getD 1) 1)) else (min, max)
  if max = some 0 then .empty
  else if min = 1 && max = some 1 then body
  else .rep min max greedy body

/-- A character that is to be matched. -/
def ofChar? (f : Flags) (c : Char) (byte : Bool) : Option Expr :=
  if byte && !f.unicode && 128 ≤ c.toNat then none
  else some (.set (f.foldCase (.single c)))

/-- The characters that a dot matches. -/
def dotSet (f : Flags) : CharSet :=
  if f.dotAll then .all
  else if f.crlf then CharSet.compl ⟨[(10, 10), (13, 13)]⟩
  else CharSet.compl ⟨[(10, 10)]⟩

/-- What an assertion looks at. -/
def ofAssertion (f : Flags) : Assertion → Look
  | .lineStart => if f.multiLine then .lineStart f.crlf else .textStart
  | .lineEnd => if f.multiLine then .lineEnd f.crlf else .textEnd
  | .textStart => .textStart
  | .textEnd => .textEnd
  | .word edge => .word edge f.unicode

mutual

/-- The expression of a pattern under the flags in force, and the flags after it. -/
def ofAstWith (f : Flags) : Ast → Option (Expr × Flags)
  | .empty => some (.empty, f)
  | .flags items => some (.empty, f.apply items)
  | .literal c byte => (ofChar? f c byte).map (·, f)
  | .dot => if f.unicode then some (.set (dotSet f), f) else none
  | .assertion a => some (.look (ofAssertion f a), f)
  | .shorthand kind negated =>
    (f.negate? negated (kind.toSet f.unicode)).map (fun s => (.set s, f))
  | .property query => (f.property? query).map (fun s => (.set s, f))
  | .bracket negated members => do
    let s ← members.toSet? f
    let s ← f.negate? negated (f.foldCase s)
    some (.set s, f)
  | .repetition min max greedy body => do
    let (e, g) ← ofAstWith f body
    some (repeated min max (greedy != f.swapGreed) e, g)
  | .group (.capture index name) body => do
    let (e, _) ← ofAstWith f body
    some (.capture index name e, f)
  | .group (.plain items) body => do
    let (e, _) ← ofAstWith (f.apply items) body
    some (e, f)
  | .concat parts => do
    let (es, g) ← ofAstsWith f parts
    some (.concat es, g)
  | .alternation branches => do
    let (es, g) ← ofAstsWith f branches
    some (.alt es, g)

/-- The expressions of patterns one after another. -/
def ofAstsWith (f : Flags) : List Ast → Option (List Expr × Flags)
  | [] => some ([], f)
  | a :: rest => do
    let (e, g) ← ofAstWith f a
    let (es, g) ← ofAstsWith g rest
    some (e :: es, g)

end

/-- The expression of a whole pattern. -/
def ofAst? (a : Ast) : Option Expr := (ofAstWith .initial a).map Prod.fst

end Expr

end EditWaves.Pattern
