import EditWaves.Proofs.Resolver.Course

/-!
# Dispatches that find no mutator

A mutation is skipped when its tag is unknown, wherever in a `multiple` it stands and also if it is
a plug-in that dispatches it.  Here the mutations that are skipped are told from the lookups alone:
they are those of the visits that dispatch a mutation for which the resolver that was there knew no
mutator.

* `Course.skipped`: the mutations that are skipped in a course.
* `skipped_dispatchAll`: those that are skipped when mutations are applied one after another.
-/

namespace EditWaves.Resolver

/-- The mutation that is dispatched, if no mutator is known for it. -/
def Visit.unresolved? : Visit → Option Mutation
  | dispatch r _ m => if (r.lookup m.tag).isNone then some m else none
  | find _ _ => none

/-- The mutations that are dispatched and for which no mutator is known. -/
def unresolved (visits : List Visit) : List Mutation := visits.filterMap Visit.unresolved?

/-- The mutations that are skipped in a course are those of its visits that find no mutator. -/
theorem Course.skipped {r after : Resolver} {log : Log} {visits : List Visit}
    (h : Course r after log visits) : Log.skipped log = unresolved visits := by
  have hresolve : ∀ {r after : Resolver} {tag : String} {found : Option Mutator} {log : Log},
      r.resolve tag = (found, after, log) → Log.skipped log = [] ∧ r.lookup tag = found := by
    intro r after tag found log h
    have hlog := r.skipped_resolve tag
    rw [h] at hlog
    exact ⟨hlog, congrArg Prod.fst h⟩
  induction h with
  | nil r => rfl
  | found h contents =>
    obtain ⟨hlog, hlookup⟩ := hresolve h
    simp [hlog, unresolved, Visit.unresolved?, hlookup]
  | missing h contents =>
    obtain ⟨hlog, hlookup⟩ := hresolve h
    rw [Log.skipped_append, hlog]
    simp [unresolved, Visit.unresolved?, hlookup, Log.skipped]
  | find h =>
    obtain ⟨hlog, -⟩ := hresolve h
    simp [hlog, unresolved, Visit.unresolved?]
  | append _ _ ih₁ ih₂ =>
    rw [Log.skipped_append, ih₁, ih₂, unresolved, unresolved, unresolved, List.filterMap_append]

/-- The mutations that are skipped in a sequence. -/
theorem skipped_dispatchAll (r : Resolver) (contents : String) (ms : List Mutation) :
    (r.lookup.dispatchAll contents ms).skipped = unresolved (r.visitsAll contents ms) := by
  rw [← (r.course_dispatchAll contents ms).skipped, ← (r.agrees_dispatchAll contents ms).effect]
  rfl

end EditWaves.Resolver
