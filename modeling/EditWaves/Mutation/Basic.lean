import EditWaves.Dict
import EditWaves.Json.Value

/-!
# Mutations

A mutation describes one edit of a file: what to do and at which characters.  The
built-in kinds delete, insert, swap or replace text; a `multiple` groups several
mutations into one; any other type tag makes a custom mutation that keeps its
fields for a plug-in.  A wave is one round of mutations for several files.

Everything that orders or applies mutations looks at a range only through its
`start` and its `effectiveEnd`.
-/

namespace EditWaves

/-! ## Ranges -/

/-- The characters that a mutation affects: from `start` on up to `stop`, or the
point at `start` if there is no `stop`. -/
structure EditRange where
  start : Nat
  stop : Option Nat
deriving Repr, BEq, DecidableEq, Inhabited

namespace EditRange

/-- The empty range at a position. -/
def point (start : Nat) : EditRange := ⟨start, none⟩

/-- The range between two positions; an end before the begin becomes the begin. -/
def span (start stop : Nat) : EditRange := ⟨start, some (max stop start)⟩

/-- The position after the last affected character, never before `start`. -/
def effectiveEnd (r : EditRange) : Nat := max (r.stop.getD r.start) r.start

theorem start_le_effectiveEnd (r : EditRange) : r.start ≤ r.effectiveEnd :=
  Nat.le_max_right _ _

/-- Whether the stop, if there is one, does not precede the start. -/
def isForward (r : EditRange) : Bool :=
  match r.stop with
  | some stop => r.start ≤ stop
  | none => true

end EditRange

/-! ## Type tags -/

namespace Tag

/-- The tag of mutations that remove text. -/
def delete : String := "text-delete"

/-- The tag of mutations that add text. -/
def insert : String := "text-insert"

/-- The tag of mutations that replace the matches of a pattern. -/
def replace : String := "text-replace"

/-- The tag of mutations that put text in place of other text. -/
def swap : String := "text-swap"

/-- The tag of mutations that group others. -/
def multiple : String := "multiple"

/-- The tags with a meaning of their own. -/
def builtin : List String := [delete, insert, replace, swap, multiple]

end Tag

/-! ## Mutations -/

/-- An edit of a file. -/
inductive Mutation where
  /-- Removes the characters in the range. -/
  | delete (range : EditRange)
  /-- Puts text before the character at the start of the range. -/
  | insert (range : EditRange) (insertion : String)
  /-- Replaces every match of a pattern in the whole file; the range only orders it. -/
  | replace (range : EditRange) (search template : String)
  /-- Puts text in place of the characters in the range. -/
  | swap (range : EditRange) (insertion : String)
  /-- Applies other mutations as one. -/
  | multiple (range : EditRange) (children : List Mutation)
  /-- A mutation of a type without a meaning of its own. -/
  | custom (range : EditRange) (tag : String) (fields : Dict Json)
deriving Inhabited

namespace Mutation

/-- The range of a mutation. -/
def range : Mutation → EditRange
  | delete r | insert r _ | replace r _ _ | swap r _ | multiple r _ | custom r _ _ => r

/-- The tag by which a mutation's mutator is found. -/
def tag : Mutation → String
  | delete _ => Tag.delete
  | insert _ _ => Tag.insert
  | replace _ _ _ => Tag.replace
  | swap _ _ => Tag.swap
  | multiple _ _ => Tag.multiple
  | custom _ t _ => t

/-- The first affected position. -/
def start (m : Mutation) : Nat := m.range.start

/-- The position by which mutations are ordered. -/
def effectiveEnd (m : Mutation) : Nat := m.range.effectiveEnd

mutual

/-- The number of mutations in a tree. -/
def weight : Mutation → Nat
  | multiple _ children => 1 + weights children
  | _ => 1

/-- The number of mutations in a list of trees. -/
def weights : List Mutation → Nat
  | [] => 0
  | m :: ms => m.weight + weights ms

end

theorem weight_pos (m : Mutation) : 0 < m.weight := by
  cases m <;> simp only [weight] <;> omega

end Mutation

/-! ## Waves -/

/-- The mutations of several files, by file name. -/
abbrev FileMutations := Dict (List Mutation)

namespace FileMutations

/-- The number of mutations of all files. -/
def count (files : FileMutations) : Nat := files.values.foldr (fun ms n => ms.length + n) 0

/-- The number of mutations of each file. -/
def counts (files : FileMutations) : Dict Nat := files.map List.length

end FileMutations

/-- One round of mutations.  A wave without a mapping of files, as opposed to an
empty mapping, says that its source has nothing more to offer. -/
structure Wave where
  files : Option FileMutations
deriving Inhabited

namespace Wave

/-- The wave that says that no mutations remain. -/
def dry : Wave := ⟨none⟩

/-- The number of mutations. -/
def count (w : Wave) : Nat := (w.files.map FileMutations.count).getD 0

end Wave

end EditWaves
