import EditWaves.Pattern.Expr

/-!
# Programs

An expression is turned into a list of instructions.  Each instruction names the
one that comes after it; a fork names two, the preferred one first.  A repetition
of something that can match the empty text is an optional repetition of at least
once, so that the empty match of its body is tried too.

Patterns whose program would be too large are refused; `Expr.cost` estimates its
size in bytes.
-/

namespace EditWaves.Pattern

open Text (CharSet)

/-- One instruction of a program. -/
inductive Inst where
  /-- Take a character of the set. -/
  | take (s : CharSet) (next : Nat)
  /-- Go on only if the position satisfies the condition. -/
  | check (l : Look) (next : Nat)
  /-- Remember the position in a slot. -/
  | save (slot next : Nat)
  /-- Go on at `first`; if that fails, at `second`. -/
  | fork (first second : Nat)
  /-- The pattern has matched. -/
  | done
deriving Inhabited

/-- A program, its first instruction, and the capturing groups that it sets. -/
structure Program where
  code : Array Inst
  entry : Nat
  /-- The largest number of a capturing group. -/
  groups : Nat
  /-- The groups that have a name. -/
  names : List (String × Nat)

namespace Expr

/-! ## Size -/

/-- The bytes that an instruction takes. -/
def unitCost : Nat := 32

/-- The bytes that a set of characters takes. -/
def setCost (s : CharSet) : Nat :=
  match s.runs with
  | [(lo, hi)] =>
    if hi < 0x80 then unitCost
    else if lo = hi then
      unitCost * (if lo < 0x800 then 2 else if lo < 0x10000 then 3 else 4)
    else 4 * unitCost
  | runs =>
    if runs.all (fun r => r.2 < 0x80) then unitCost + 8 * runs.length
    else 2 * unitCost * runs.length

mutual

/-- The bytes that the program of an expression takes. -/
def cost : Expr → Nat
  | .empty => unitCost
  | .set s => setCost s
  | .look _ => unitCost
  | .rep min max _ body => (body.cost + unitCost + 8) * Nat.max 1 (Nat.max min (max.getD 0))
  | .capture _ _ body => body.cost + 2 * unitCost
  | .concat parts => costs parts
  | .alt branches => costs branches + unitCost

/-- The bytes that the programs of several expressions take. -/
def costs : List Expr → Nat
  | [] => 0
  | e :: rest => e.cost + costs rest

end

/-- Programs take at most this many bytes. -/
def costLimit : Nat := 10485760

/-! ## Capturing groups -/

mutual

/-- The capturing groups of an expression with their names. -/
def captures : Expr → List (Nat × Option String)
  | .capture index name body => (index, name) :: body.captures
  | .rep _ _ _ body => body.captures
  | .concat parts => capturesOf parts
  | .alt branches => capturesOf branches
  | _ => []

/-- The capturing groups of several expressions. -/
def capturesOf : List Expr → List (Nat × Option String)
  | [] => []
  | e :: rest => e.captures ++ capturesOf rest

end

/-! ## Instructions -/

/-- A program under construction and the number of its latest entry. -/
abbrev Code := Array Inst × Nat

/-- Adds an instruction. -/
def push (code : Array Inst) (i : Inst) : Code := (code.push i, code.size)

/-- A fork between the body of a repetition and what follows it. -/
def forkTo (greedy : Bool) (body next : Nat) : Inst :=
  if greedy then .fork body next else .fork next body

/-- Applies a step a number of times, each time to the entry of the time before. -/
def chain (step : Nat → Array Inst → Code) : Nat → Nat → Array Inst → Code
  | 0, next, code => (code, next)
  | count + 1, next, code =>
    let (code, next) := step next code
    chain step count next code

mutual

/-- Adds the instructions of an expression that is followed by `next`. -/
def emit (next : Nat) (code : Array Inst) : Expr → Code
  | .empty => (code, next)
  | .set s => push code (.take s next)
  | .look l => push code (.check l next)
  | .capture index _ body =>
    let (code, close) := push code (.save (2 * index + 1) next)
    let (code, entry) := emit close code body
    push code (.save (2 * index) entry)
  | .concat parts => emitAll next code parts
  | .alt branches => emitBranches next code branches
  | .rep min (some max) greedy body =>
    let (code, entry) := chain (fun later code =>
      let (code, entry) := emit later code body
      push code (forkTo greedy entry next)) (max - min) next code
    chain (fun later code => emit later code body) min entry code
  | .rep 0 none greedy body =>
    let (code, fork) := push code .done
    let (code, entry) := emit fork code body
    let code := code.set! fork (forkTo greedy entry next)
    if body.consumes then (code, fork) else push code (forkTo greedy entry next)
  | .rep (min + 1) none greedy body =>
    let (code, fork) := push code .done
    let (code, entry) := emit fork code body
    let code := code.set! fork (forkTo greedy entry next)
    chain (fun later code => emit later code body) min entry code

/-- Adds the instructions of expressions one after another. -/
def emitAll (next : Nat) (code : Array Inst) : List Expr → Code
  | [] => (code, next)
  | e :: rest =>
    let (code, later) := emitAll next code rest
    emit later code e

/-- Adds the instructions of alternatives, the first preferred. -/
def emitBranches (next : Nat) (code : Array Inst) : List Expr → Code
  | [] => push code (.take .empty next)
  | [e] => emit next code e
  | e :: rest =>
    let (code, others) := emitBranches next code rest
    let (code, entry) := emit next code e
    push code (.fork entry others)

end

/-- The program of an expression, unless it is too large. -/
def program? (e : Expr) : Option Program :=
  if costLimit < e.cost then none
  else
    let (code, entry) := emit 0 #[.done] e
    let groups := e.captures
    some {
      code, entry
      groups := groups.foldl (fun n g => Nat.max n g.1) 0
      names := groups.filterMap (fun g => g.2.map (·, g.1)) }

end Expr

/-- The program of a pattern, unless the pattern is refused. -/
def compile? (pattern : String) : Option Program := do
  let ast ← Ast.parse? pattern
  let e ← Expr.ofAst? ast
  e.program?

end EditWaves.Pattern
