import EditWaves.Text.CharSet

/-!
# The shape of a search pattern

The tree of a pattern as it is written.  What the flags in force make of each part
is decided when the tree is turned into an expression.
-/

namespace EditWaves.Pattern

open Text (CharSet)

/-- The flags that a pattern can set. -/
inductive Flag where
  | ignoreCase
  | multiLine
  | dotAll
  | swapGreed
  | unicode
  | crlf
  | verbose
deriving Repr, BEq, DecidableEq

/-- One item of a list of flags: a flag, or the dash after which flags are cleared. -/
inductive FlagItem where
  | flag (f : Flag)
  | negation
deriving Repr, BEq, DecidableEq

/-- The classes that have an escape of one letter. -/
inductive Shorthand where
  | digit
  | space
  | word
deriving Repr, BEq, DecidableEq

/-- Assertions about the characters around a position. -/
inductive WordEdge where
  | boundary
  | inside
  | start
  | finish
  | startHalf
  | finishHalf
deriving Repr, BEq, DecidableEq

/-- Assertions about a position. -/
inductive Assertion where
  | lineStart
  | lineEnd
  | textStart
  | textEnd
  | word (edge : WordEdge)
deriving Repr, BEq, DecidableEq

/-- A class named by a Unicode property: by a name alone or by a property and its
value. -/
structure PropertyQuery where
  name : String
  value : Option String
  negated : Bool
deriving Repr, BEq

/-- The operations between the sets of a bracketed class. -/
inductive SetOp where
  | inter
  | diff
  | symmDiff
deriving Repr, BEq, DecidableEq

/-- A set inside a bracketed class. -/
inductive ClassSet where
  | empty
  /-- A character; `byte` if it was written as two hexadecimal digits. -/
  | literal (c : Char) (byte : Bool)
  | range (first last : Char)
  | ascii (name : String) (negated : Bool)
  | shorthand (kind : Shorthand) (negated : Bool)
  | property (query : PropertyQuery)
  | bracket (negated : Bool) (set : ClassSet)
  | union (sets : List ClassSet)
  | binary (op : SetOp) (left right : ClassSet)
deriving Inhabited

/-- How a group is opened. -/
inductive GroupKind where
  | capture (index : Nat) (name : Option String)
  | plain (flags : List FlagItem)
deriving Repr, BEq

/-- A pattern as it is written. -/
inductive Ast where
  | empty
  | flags (items : List FlagItem)
  | literal (c : Char) (byte : Bool)
  | dot
  | assertion (a : Assertion)
  | shorthand (kind : Shorthand) (negated : Bool)
  | property (query : PropertyQuery)
  | bracket (negated : Bool) (set : ClassSet)
  | repetition (min : Nat) (max : Option Nat) (greedy : Bool) (body : Ast)
  | group (kind : GroupKind) (body : Ast)
  | concat (parts : List Ast)
  | alternation (branches : List Ast)
deriving Inhabited

mutual

/-- How deep sets are nested. -/
def ClassSet.depth : ClassSet → Nat
  | .bracket _ set => set.depth + 1
  | .union sets => ClassSet.depths sets + 1
  | .binary _ left right => max left.depth right.depth + 1
  | _ => 0

/-- How deep the deepest of several sets is. -/
def ClassSet.depths : List ClassSet → Nat
  | [] => 0
  | s :: rest => max s.depth (ClassSet.depths rest)

end

mutual

/-- How deep a pattern is nested. -/
def Ast.depth : Ast → Nat
  | .bracket _ set => set.depth + 1
  | .repetition _ _ _ body => body.depth + 1
  | .group _ body => body.depth + 1
  | .concat parts => Ast.depths parts + 1
  | .alternation branches => Ast.depths branches + 1
  | _ => 0

/-- How deep the deepest of several patterns is. -/
def Ast.depths : List Ast → Nat
  | [] => 0
  | a :: rest => max a.depth (Ast.depths rest)

end

/-- Patterns are nested at most this deep. -/
def depthLimit : Nat := 250

/-- Parts one after another; one part alone is that part. -/
def Ast.ofParts : List Ast → Ast
  | [] => .empty
  | [a] => a
  | parts => .concat parts

/-- Sets side by side; one set alone is that set. -/
def ClassSet.ofSets : List ClassSet → ClassSet
  | [] => .empty
  | [s] => s
  | sets => .union sets

end EditWaves.Pattern
