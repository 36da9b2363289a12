import Std.Data.HashSet
import EditWaves.Pattern.Program

/-!
# Matching

A program is run on a text by backtracking: of several ways to go on, the
preferred one is tried first.  Whether a match exists from an instruction at a
position does not depend on how it was reached, so no pair of the two is tried
twice, and the time is bounded by the product of the sizes of program and text.

* `Program.find?` finds the leftmost match from a position on.
* `Program.findAll` finds successive matches.  An empty match directly after the
  match before is skipped.
-/

namespace EditWaves.Pattern

/-- A match: the characters it covers and, for each capturing group, the characters
that the group covers if it took part. -/
structure Match where
  start : Nat
  stop : Nat
  groups : List (Option (Nat × Nat))
deriving Repr, BEq, DecidableEq, Inhabited

/-- One way to go on: an instruction, a position, and the positions saved so far,
the latest first. -/
structure Thread where
  inst : Nat
  pos : Nat
  saves : List (Nat × Nat)

namespace Look

/-- The character before a position. -/
def before (text : Array Char) (pos : Nat) : Option Char :=
  if pos = 0 then none else text[pos - 1]?

/-- Whether a character belongs to a word. -/
def isWord (unicode : Bool) (c : Option Char) : Bool :=
  match c with
  | some c => if unicode then Unicode.wordChars.contains c else (asciiSet "word").contains c
  | none => false

/-- Whether a position satisfies a condition. -/
def holds (text : Array Char) (pos : Nat) : Look → Bool
  | .textStart => pos = 0
  | .textEnd => pos = text.size
  | .lineStart crlf =>
    match before text pos with
    | none => true
    | some c => c = '\n' || (crlf && c = '\r' && text[pos]? ≠ some '\n')
  | .lineEnd crlf =>
    match text[pos]? with
    | none => true
    | some c =>
      if crlf then c = '\r' || (c = '\n' && before text pos ≠ some '\r') else c = '\n'
  | .word edge unicode =>
    let left := isWord unicode (before text pos)
    let right := isWord unicode text[pos]?
    match edge with
    | .boundary => left != right
    | .inside => left == right
    | .start => !left && right
    | .finish => left && !right
    | .startHalf => !left
    | .finishHalf => !right

end Look

namespace Program

/-- Runs threads, the first of the list preferred, until one has matched.  `seen`
holds the pairs of instruction and position that have been tried. -/
def run (p : Program) (text : Array Char) :
    Nat → List Thread → Std.HashSet Nat → Option Thread × Std.HashSet Nat
  | 0, _, seen => (none, seen)
  | _ + 1, [], seen => (none, seen)
  | fuel + 1, t :: others, seen =>
    let pair := t.inst * (text.size + 1) + t.pos
    if seen.contains pair then p.run text fuel others seen
    else
      let seen := seen.insert pair
      match p.code[t.inst]? with
      | none => p.run text fuel others seen
      | some .done => (some t, seen)
      | some (.take s next) =>
        match text[t.pos]? with
        | some c =>
          if s.contains c then p.run text fuel (⟨next, t.pos + 1, t.saves⟩ :: others) seen
          else p.run text fuel others seen
        | none => p.run text fuel others seen
      | some (.check l next) =>
        if l.holds text t.pos then p.run text fuel ({ t with inst := next } :: others) seen
        else p.run text fuel others seen
      | some (.save slot next) =>
        p.run text fuel (⟨next, t.pos, (slot, t.pos) :: t.saves⟩ :: others) seen
      | some (.fork first second) =>
        p.run text fuel ({ t with inst := first } :: { t with inst := second } :: others) seen

/-- Steps enough to try every pair of instruction and position. -/
def fuelFor (p : Program) (text : Array Char) : Nat :=
  2 * p.code.size * (text.size + 1) + 2

/-- The characters that a group covers. -/
def groupSpan (saves : List (Nat × Nat)) (index : Nat) : Option (Nat × Nat) := do
  let start ← saves.lookup (2 * index)
  let stop ← saves.lookup (2 * index + 1)
  some (start, stop)

/-- The match that a finished thread stands for. -/
def toMatch (p : Program) (start : Nat) (t : Thread) : Match where
  start
  stop := t.pos
  groups := (List.range p.groups).map (fun i => groupSpan t.saves (i + 1))

/-- The match that starts exactly at `start`, and the pairs tried. -/
def matchAt (p : Program) (text : Array Char) (seen : Std.HashSet Nat) (start : Nat) :
    Option Match × Std.HashSet Nat :=
  match p.run text (p.fuelFor text) [⟨p.entry, start, []⟩] seen with
  | (some t, seen) => (some (p.toMatch start t), seen)
  | (none, seen) => (none, seen)

/-- The leftmost match that starts at one of the `count` positions from `start` on. -/
def search (p : Program) (text : Array Char) (seen : Std.HashSet Nat) (start : Nat) :
    Nat → Option Match
  | 0 => none
  | count + 1 =>
    match p.matchAt text seen start with
    | (some m, _) => some m
    | (none, seen) => search p text seen (start + 1) count

/-- The leftmost match from a position on. -/
def find? (p : Program) (text : Array Char) (start : Nat) : Option Match :=
  p.search text Std.HashSet.emptyWithCapacity start (text.size + 1 - start)

/-- The first match from `start` on that is not empty at `last`, the end of the match
before. -/
def findNext (p : Program) (text : Array Char) (start : Nat) (last : Option Nat) :
    Option Match :=
  match p.find? text start with
  | some m =>
    if m.start = m.stop && last = some m.stop then p.find? text (start + 1) else some m
  | none => none

/-- Successive matches from `start` on. -/
def findAllFrom (p : Program) (text : Array Char) : Nat → Nat → Option Nat → List Match
  | 0, _, _ => []
  | fuel + 1, start, last =>
    match p.findNext text start last with
    | some m => m :: p.findAllFrom text fuel m.stop (some m.stop)
    | none => []

/-- All matches in a text, in order. -/
def findAll (p : Program) (text : Array Char) : List Match :=
  p.findAllFrom text (2 * text.size + 2) 0 none

end Program

end EditWaves.Pattern
