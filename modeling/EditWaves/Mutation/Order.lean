import EditWaves.Mutation.Basic

/-!
# The order of edits

An edit shifts every position after it, so the edits of a file are applied from
its end towards its start.  The orders below are stable sorts by effective end.
The sweep goes down from the highest position and keeps an edit only if it ends
before the start of the edit kept last; touching ranges and repeated insertion
points count as overlaps.

The functions work on anything that has a range (`Ranged`), so that a list can be
ordered together with labels.
-/

namespace EditWaves

/-- What has a range and can therefore be ordered. -/
class Ranged (α : Type) where
  range : α → EditRange

instance : Ranged Mutation := ⟨Mutation.range⟩

/-- A label does not change where something stands. -/
instance {ι α : Type} [Ranged α] : Ranged (ι × α) := ⟨fun p => Ranged.range p.2⟩

namespace Order

variable {α : Type}

/-- Inserts before the first element whose key is not smaller. -/
def insertBy (key : α → Nat) (a : α) : List α → List α
  | [] => [a]
  | b :: rest => if key a ≤ key b then a :: b :: rest else b :: insertBy key a rest

/-- Sorts by ascending key; elements with one key keep their order. -/
def sortBy (key : α → Nat) : List α → List α
  | [] => []
  | a :: rest => insertBy key a (sortBy key rest)

/-- Inserts before the first element whose key is not larger. -/
def insertDownBy (key : α → Nat) (a : α) : List α → List α
  | [] => [a]
  | b :: rest => if key b ≤ key a then a :: b :: rest else b :: insertDownBy key a rest

/-- Sorts by descending key; elements with one key keep their order. -/
def sortDownBy (key : α → Nat) : List α → List α
  | [] => []
  | a :: rest => insertDownBy key a (sortDownBy key rest)

theorem perm_insertDownBy (key : α → Nat) (a : α) (l : List α) :
    (insertDownBy key a l).Perm (a :: l) := by
  induction l with
  | nil => exact .refl _
  | cons b rest ih =>
    unfold insertDownBy
    split
    · exact .refl _
    · exact (List.Perm.cons b ih).trans (List.Perm.swap a b rest)

/-- Sorting only rearranges. -/
theorem perm_sortDownBy (key : α → Nat) (l : List α) : (sortDownBy key l).Perm l := by
  induction l with
  | nil => exact .refl _
  | cons a rest ih => exact (perm_insertDownBy key a _).trans (ih.cons a)

section Ranged

variable [Ranged α]

/-- The first affected position. -/
def start (a : α) : Nat := (Ranged.range a).start

/-- The position by which edits are ordered. -/
def effectiveEnd (a : α) : Nat := (Ranged.range a).effectiveEnd

/-- Ascending by effective end. -/
def firstToLast (l : List α) : List α := sortBy effectiveEnd l

/-- Descending by effective end. -/
def lastToFirst (l : List α) : List α := sortDownBy effectiveEnd l

/-- What the sweep decides about an edit: it is kept, or dropped because it reaches
the start of the edit kept last. -/
inductive Verdict (α : Type) where
  | kept (a : α)
  | dropped (a : α) (keptStart : Nat)

/-- The decisions on a list of edits, taken from its front; `bound` is the start of
the edit kept last. -/
def verdicts (bound : Option Nat) : List α → List (Verdict α)
  | [] => []
  | a :: rest =>
    match bound with
    | some keptStart =>
      if keptStart ≤ effectiveEnd a then .dropped a keptStart :: verdicts bound rest
      else .kept a :: verdicts (some (start a)) rest
    | none => .kept a :: verdicts (some (start a)) rest

/-- The edit, if it was kept. -/
def Verdict.kept? : Verdict α → Option α
  | .kept a => some a
  | .dropped _ _ => none

/-- The edit and the start that it reaches, if it was dropped. -/
def Verdict.dropped? : Verdict α → Option (α × Nat)
  | .kept _ => none
  | .dropped a keptStart => some (a, keptStart)

/-- The order in which the sweep meets the edits: the ascending order, reversed. -/
def sweepOrder (l : List α) : List α := (firstToLast l).reverse

/-- The edits that the sweep keeps, last to first. -/
def sweep (l : List α) : List α := (verdicts none (sweepOrder l)).filterMap Verdict.kept?

/-- The edits that the sweep drops, in the order in which it meets them, each with
the start of the edit kept last before it. -/
def drops (l : List α) : List (α × Nat) :=
  (verdicts none (sweepOrder l)).filterMap Verdict.dropped?

end Ranged

end Order

namespace Mutation

/-- Mutations ascending by effective end. -/
def firstToLast (ms : List Mutation) : List Mutation := Order.firstToLast ms

/-- Mutations descending by effective end. -/
def lastToFirst (ms : List Mutation) : List Mutation := Order.lastToFirst ms

/-- The mutations that do not overlap, last to first. -/
def sweep (ms : List Mutation) : List Mutation := Order.sweep ms

theorem perm_lastToFirst (ms : List Mutation) : (lastToFirst ms).Perm ms :=
  Order.perm_sortDownBy _ ms

theorem weights_perm {ms ns : List Mutation} (h : ms.Perm ns) : weights ms = weights ns := by
  induction h with
  | nil => rfl
  | cons m _ ih => simp [weights, ih]
  | swap m n l => simp [weights]; omega
  | trans _ _ ih₁ ih₂ => exact ih₁.trans ih₂

/-- Ordering a list does not change its weight. -/
theorem weights_lastToFirst (ms : List Mutation) : weights (lastToFirst ms) = weights ms :=
  weights_perm (perm_lastToFirst ms)

end Mutation

end EditWaves
