import EditWaves.Mutation.Combine
import EditWaves.Proofs.Mutation.Place

/-!
# The spellings of a range

An empty range can be spelled without an end, with its begin as its end, and with an end before its
begin.  `EditRange.canonical` is the one spelling that writes the end out and never before the
begin; `Mutation.canonical` spells all ranges of a mutation so, those of its children included.

A respelled mutation stands where it stood (`keepsPlaces_canonical`), so orders, sweep and hulls
cannot tell the spellings apart.

* `OrderedAlike`: two lists of edits are put into one order, told by the indexes of the edits.
* `range_combine_canonical`: combining respelled mutations.
-/

namespace EditWaves

namespace EditRange

/-- A range spelled with its effective end. -/
def canonical (r : EditRange) : EditRange := span r.start r.effectiveEnd

@[simp] theorem start_canonical (r : EditRange) : r.canonical.start = r.start := rfl

@[simp] theorem effectiveEnd_canonical (r : EditRange) :
    r.canonical.effectiveEnd = r.effectiveEnd := by
  have hle := r.start_le_effectiveEnd
  rw [effectiveEnd, start_canonical, canonical, span, Option.getD_some, Nat.max_eq_left hle,
    Nat.max_eq_left hle]

end EditRange

namespace Mutation

mutual

/-- A mutation with every range in it, at any depth, spelled with its effective end. -/
def canonical : Mutation → Mutation
  | delete r => delete r.canonical
  | insert r insertion => insert r.canonical insertion
  | replace r search template => replace r.canonical search template
  | swap r insertion => swap r.canonical insertion
  | multiple r children => multiple r.canonical (canonicalAll children)
  | custom r tag fields => custom r.canonical tag fields

/-- Some mutations, each with every range in it spelled with its effective end. -/
def canonicalAll : List Mutation → List Mutation
  | [] => []
  | m :: rest => canonical m :: canonicalAll rest

end

theorem canonicalAll_eq_map (ms : List Mutation) : canonicalAll ms = ms.map canonical := by
  induction ms with
  | nil => rfl
  | cons m rest ih => rw [canonicalAll, ih, List.map_cons]

@[simp] theorem tag_canonical (m : Mutation) : m.canonical.tag = m.tag := by
  cases m <;> rfl

@[simp] theorem range_canonical (m : Mutation) : m.canonical.range = m.range.canonical := by
  cases m <;> rfl

@[simp] theorem start_canonical (m : Mutation) : m.canonical.start = m.start := by
  rw [start, range_canonical, EditRange.start_canonical, start]

@[simp] theorem effectiveEnd_canonical (m : Mutation) :
    m.canonical.effectiveEnd = m.effectiveEnd := by
  rw [effectiveEnd, range_canonical, EditRange.effectiveEnd_canonical, effectiveEnd]

/-- A respelled mutation stands where it stood. -/
theorem keepsPlaces_canonical : Order.KeepsPlaces canonical :=
  ⟨start_canonical, effectiveEnd_canonical⟩

theorem lastToFirst_canonical (ms : List Mutation) :
    lastToFirst (ms.map canonical) = (lastToFirst ms).map canonical :=
  Order.lastToFirst_map keepsPlaces_canonical ms

/-! ## Combined mutations -/

/-- A hull shows nothing but starts and effective ends. -/
theorem hull_canonical (ms : List Mutation) : hull (ms.map canonical) = hull ms := by
  have hstart : start ∘ canonical = start := funext start_canonical
  have hend : effectiveEnd ∘ canonical = effectiveEnd := funext effectiveEnd_canonical
  rw [hull, List.map_map, List.map_map, hstart, hend, hull]

theorem range_combine_canonical (ms : List Mutation) :
    (combine (ms.map canonical)).range = (combine ms).range := by
  have hsorted : firstToLast (ms.map canonical) = (firstToLast ms).map canonical :=
    Order.firstToLast_map keepsPlaces_canonical ms
  rw [combine, hsorted, range, hull_canonical, combine, range]

end Mutation

/-! ## Orders by index -/

namespace Order

variable {α : Type}

/-- The edits of a list, each with its index. -/
def indexed (l : List α) : List (Nat × α) := (List.range l.length).zip l

theorem indexed_map {β : Type} (f : α → β) (l : List α) :
    indexed (l.map f) = (indexed l).map (Prod.map id f) := by
  rw [indexed, List.length_map, List.zip_map_right, indexed]

variable {β : Type} [Ranged α] [Ranged β]

/-- Two lists of edits are put into one order, up and down, and the sweep keeps and drops the edits
at the same indexes, those that are dropped for the same starts. -/
structure OrderedAlike (l : List α) (l' : List β) : Prop where
  firstToLast : (firstToLast (indexed l)).map Prod.fst = (firstToLast (indexed l')).map Prod.fst
  lastToFirst : (lastToFirst (indexed l)).map Prod.fst = (lastToFirst (indexed l')).map Prod.fst
  sweep : (sweep (indexed l)).map Prod.fst = (sweep (indexed l')).map Prod.fst
  drops : (drops (indexed l)).map (Prod.map Prod.fst id)
    = (drops (indexed l')).map (Prod.map Prod.fst id)

/-- Edits that are mapped to others at the same places are ordered as these are. -/
theorem KeepsPlaces.orderedAlike {f : α → β} (hf : KeepsPlaces f) (l : List α) :
    OrderedAlike l (l.map f) := by
  have hlabelled : KeepsPlaces (Prod.map id f : Nat × α → Nat × β) :=
    ⟨fun p => hf.start p.2, fun p => hf.effectiveEnd p.2⟩
  refine ⟨?_, ?_, ?_, ?_⟩
  · rw [indexed_map, firstToLast_map hlabelled, List.map_map]
    rfl
  · rw [indexed_map, lastToFirst_map hlabelled, List.map_map]
    rfl
  · rw [indexed_map, sweep_map hlabelled, List.map_map]
    rfl
  · rw [indexed_map, drops_map hlabelled, List.map_map]
    rfl

end Order

end EditWaves
