/-!
# Sets of characters

A `CharSet` is a set of code points given by runs.  The runs of a set in normal
form ascend and neither overlap nor touch; the operations below return normal
forms.  `CharSet.ofGaps` reads the compact form of the Unicode tables.
-/

namespace EditWaves.Text

/-- A set of code points as runs, both ends included. -/
structure CharSet where
  runs : List (Nat × Nat)
deriving Repr, BEq, DecidableEq, Inhabited

namespace CharSet

/-- The largest code point. -/
def top : Nat := 0x10FFFF

/-- The set without members. -/
def empty : CharSet := ⟨[]⟩

/-- The set of all code points. -/
def all : CharSet := ⟨[(0, top)]⟩

/-- The set of one character. -/
def single (c : Char) : CharSet := ⟨[(c.toNat, c.toNat)]⟩

/-- Membership in a list of ascending runs. -/
def memRuns (n : Nat) : List (Nat × Nat) → Bool
  | [] => false
  | (lo, hi) :: rest => if n < lo then false else if n ≤ hi then true else memRuns n rest

/-- Whether a code point is a member. -/
def mem (s : CharSet) (n : Nat) : Bool := memRuns n s.runs

/-- Whether a character is a member. -/
def contains (s : CharSet) (c : Char) : Bool := s.mem c.toNat

/-- Joins runs that overlap or touch, reading them in ascending order of their
first members; `lo` to `hi` is the run being built. -/
def joinRuns (lo hi : Nat) : List (Nat × Nat) → List (Nat × Nat)
  | [] => [(lo, hi)]
  | (l, h) :: rest =>
    if l ≤ hi + 1 then joinRuns lo (max hi h) rest else (lo, hi) :: joinRuns l h rest

/-- The normal form of a list of runs. -/
def ofRuns (runs : List (Nat × Nat)) : CharSet :=
  match (runs.filter (fun r => r.1 ≤ r.2)).mergeSort (fun a b => a.1 ≤ b.1) with
  | [] => empty
  | (lo, hi) :: rest => ⟨joinRuns lo hi rest⟩

/-- The runs between the given ones, from `start` on. -/
def gapRuns (start : Nat) : List (Nat × Nat) → List (Nat × Nat)
  | [] => if start ≤ top then [(start, top)] else []
  | (lo, hi) :: rest =>
    if start < lo then (start, lo - 1) :: gapRuns (hi + 1) rest else gapRuns (hi + 1) rest

/-- The code points that are no members. -/
def compl (s : CharSet) : CharSet := ⟨gapRuns 0 s.runs⟩

/-- The members of either set. -/
def union (s t : CharSet) : CharSet := ofRuns (s.runs ++ t.runs)

/-- The members of both sets. -/
def inter (s t : CharSet) : CharSet := (s.compl.union t.compl).compl

/-- The members of the first set that are not in the second. -/
def diff (s t : CharSet) : CharSet := s.inter t.compl

/-- The members of exactly one of the sets. -/
def symmDiff (s t : CharSet) : CharSet := (s.diff t).union (t.diff s)

/-- Whether the set has no members. -/
def isEmpty (s : CharSet) : Bool := s.runs.isEmpty

/-! ## The compact form -/

/-- The value of a base 36 digit. -/
def digit36 (c : Char) : Nat :=
  if c.isDigit then c.toNat - '0'.toNat else c.toNat - 'a'.toNat + 10

/-- The value of a base 36 numeral. -/
def number36 (cs : List Char) : Nat := cs.foldl (fun n c => n * 36 + digit36 c) 0

/-- The runs that a list of words describes, from the code point `start` on: a word
is the gap before a run and, after a point, its length less one. -/
def runsOfGaps (start : Nat) : List (List Char) → List (Nat × Nat)
  | [] => []
  | word :: rest =>
    let lo := start + number36 (word.takeWhile (· != '.'))
    let hi := lo + number36 ((word.dropWhile (· != '.')).drop 1)
    (lo, hi) :: runsOfGaps (hi + 1) rest

/-- Splits a list of characters at spaces. -/
def words : List Char → List (List Char)
  | [] => [[]]
  | c :: rest =>
    match words rest with
    | [] => [[c]]
    | w :: ws => if c = ' ' then [] :: w :: ws else (c :: w) :: ws

/-- The set that the lines of a table of gaps describe. -/
def ofGaps (lines : List String) : CharSet :=
  ⟨runsOfGaps 0 ((lines.flatMap (fun l => words l.toList)).filter (· ≠ []))⟩

end CharSet

end EditWaves.Text
