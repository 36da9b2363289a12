import EditWaves.Mutation.Order

/-!
# Combining mutations

`combine` makes one `multiple` mutation of several.  Its children are ordered
first to last, and its range is the hull of theirs.
-/

namespace EditWaves.Mutation

/-- The hull of the ranges of some mutations; a point at the start of the file if
there are none. -/
def hull (ms : List Mutation) : EditRange :=
  match (ms.map start).min? with
  | some first => ⟨first, (ms.map effectiveEnd).max?⟩
  | none => EditRange.point 0

/-- One mutation that applies the given ones. -/
def combine (ms : List Mutation) : Mutation :=
  multiple (hull (firstToLast ms)) (firstToLast ms)

end EditWaves.Mutation
