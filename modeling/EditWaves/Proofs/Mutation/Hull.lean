import Mathlib.Order.Bounds.Basic
import EditWaves.Mutation.Combine
import EditWaves.Proofs.Mutation.StableSort

/-!
# The range of a combined mutation

A combined mutation has the hull of the ranges that it combines: it reaches from the first of
their starts to the last of their effective ends, and no further.  A range whose end precedes
its begin counts as the point at its begin, so a hull never ends before it starts.

* `IsHull`: which range is the hull of some mutations; there is only one (`IsHull.unique`).
* `isHull_combine`: the range of a combined mutation.
* `IsHull.flatten`: the hull of hulls is the hull of everything in them.
-/

namespace EditWaves.Mutation

/-- A range reaches from the least start of some mutations to their greatest effective end. -/
structure IsHull (ms : List Mutation) (r : EditRange) : Prop where
  start : IsLeast {n | ∃ m ∈ ms, m.start = n} r.start
  stop : ∃ last, r.stop = some last ∧ IsGreatest {n | ∃ m ∈ ms, m.effectiveEnd = n} last

theorem start_le_effectiveEnd (m : Mutation) : m.start ≤ m.effectiveEnd :=
  m.range.start_le_effectiveEnd

namespace IsHull

variable {ms ns : List Mutation} {r r' : EditRange} {m : Mutation}

/-- A hull never ends before it starts: the mutation that starts first ends within it. -/
theorem exists_stop (h : IsHull ms r) : ∃ stop, r.stop = some stop ∧ r.start ≤ stop := by
  obtain ⟨last, hstop, -, hlast⟩ := h.stop
  obtain ⟨m, hm, hfirst⟩ := h.start.1
  refine ⟨last, hstop, ?_⟩
  calc r.start = m.start := hfirst.symm
    _ ≤ m.effectiveEnd := m.start_le_effectiveEnd
    _ ≤ last := hlast ⟨m, hm, rfl⟩

theorem effectiveEnd (h : IsHull ms r) :
    IsGreatest {n | ∃ m ∈ ms, m.effectiveEnd = n} r.effectiveEnd := by
  obtain ⟨last, hstop, hlast⟩ := h.stop
  obtain ⟨stop, hstop', hle⟩ := h.exists_stop
  obtain rfl : stop = last := Option.some.inj (hstop'.symm.trans hstop)
  rwa [EditRange.effectiveEnd, hstop, Option.getD_some, Nat.max_eq_left hle]

/-- A hull reaches over every mutation. -/
theorem bounds (h : IsHull ms r) (hm : m ∈ ms) :
    r.start ≤ m.start ∧ m.effectiveEnd ≤ r.effectiveEnd :=
  ⟨h.start.2 ⟨m, hm, rfl⟩, h.effectiveEnd.2 ⟨m, hm, rfl⟩⟩

/-- Mutations have only one hull. -/
theorem unique (h : IsHull ms r) (h' : IsHull ms r') : r = r' := by
  obtain ⟨last, hstop, hlast⟩ := h.stop
  obtain ⟨last', hstop', hlast'⟩ := h'.stop
  cases r
  cases r'
  obtain rfl := h.start.unique h'.start
  obtain rfl := hlast.unique hlast'
  rw [EditRange.mk.injEq]
  exact ⟨rfl, hstop.trans hstop'.symm⟩

theorem of_perm (hperm : ms.Perm ns) (h : IsHull ms r) : IsHull ns r where
  start := by simpa only [hperm.mem_iff] using h.start
  stop := by simpa only [hperm.mem_iff] using h.stop

end IsHull

theorem isHull_hull {ms : List Mutation} (hms : ms ≠ []) : IsHull ms (hull ms) := by
  cases hmin : (ms.map start).min? with
  | none => exact absurd (List.map_eq_nil_iff.1 (List.min?_eq_none_iff.1 hmin)) hms
  | some first =>
    cases hmax : (ms.map effectiveEnd).max? with
    | none => exact absurd (List.map_eq_nil_iff.1 (List.max?_eq_none_iff.1 hmax)) hms
    | some last =>
      obtain ⟨hfirst, hleast⟩ := List.min?_eq_some_iff.1 hmin
      obtain ⟨hlast, hgreatest⟩ := List.max?_eq_some_iff.1 hmax
      have hhull : hull ms = ⟨first, some last⟩ := by rw [hull, hmin, hmax]
      rw [hhull]
      refine ⟨⟨List.mem_map.1 hfirst, ?_⟩, last, rfl, List.mem_map.1 hlast, ?_⟩
      · rintro n ⟨m, hm, rfl⟩
        exact hleast _ (List.mem_map_of_mem hm)
      · rintro n ⟨m, hm, rfl⟩
        exact hgreatest _ (List.mem_map_of_mem hm)

/-! ## Combined mutations -/

theorem perm_firstToLast (ms : List Mutation) : (firstToLast ms).Perm ms :=
  (Order.stablySorted_sortBy _ ms).perm

/-- A combined mutation has the hull of what it combines. -/
theorem isHull_combine {ms : List Mutation} (hms : ms ≠ []) : IsHull ms (combine ms).range := by
  have hsorted : firstToLast ms ≠ [] := by
    intro hnil
    exact hms ((hnil ▸ perm_firstToLast ms).symm.eq_nil)
  exact (isHull_hull hsorted).of_perm (perm_firstToLast ms)

/-- A combined mutation reaches over all that it combines. -/
theorem mem_bounds_combine {g : List Mutation} {m : Mutation} (hm : m ∈ g) :
    (combine g).start ≤ m.start ∧ m.effectiveEnd ≤ (combine g).effectiveEnd :=
  (isHull_combine (List.ne_nil_of_mem hm)).bounds hm

/-- The hull of combined mutations is the hull of all that they combine. -/
theorem IsHull.flatten {groups : List (List Mutation)} {r : EditRange}
    (hgroups : ∀ g ∈ groups, g ≠ []) (h : IsHull (groups.map combine) r) :
    IsHull groups.flatten r := by
  obtain ⟨last, hstop, hlast⟩ := h.stop
  refine ⟨⟨?_, ?_⟩, last, hstop, ?_, ?_⟩
  · obtain ⟨c, hc, hfirst⟩ := h.start.1
    obtain ⟨g, hg, rfl⟩ := List.mem_map.1 hc
    obtain ⟨m, hm, hstart⟩ := (isHull_combine (hgroups g hg)).start.1
    exact ⟨m, List.mem_flatten_of_mem hg hm, hstart.trans hfirst⟩
  · rintro n ⟨m, hm, rfl⟩
    obtain ⟨g, hg, hmg⟩ := List.mem_flatten.1 hm
    have hfirst := h.start.2 ⟨_, List.mem_map_of_mem hg, rfl⟩
    exact hfirst.trans (mem_bounds_combine hmg).1
  · obtain ⟨c, hc, hend⟩ := hlast.1
    obtain ⟨g, hg, rfl⟩ := List.mem_map.1 hc
    obtain ⟨m, hm, hgreatest⟩ := (isHull_combine (hgroups g hg)).effectiveEnd.1
    exact ⟨m, List.mem_flatten_of_mem hg hm, hgreatest.trans hend⟩
  · rintro n ⟨m, hm, rfl⟩
    obtain ⟨g, hg, hmg⟩ := List.mem_flatten.1 hm
    have hend := hlast.2 ⟨_, List.mem_map_of_mem hg, rfl⟩
    exact (mem_bounds_combine hmg).2.trans hend

/-- Of some mutations, at least one, `combine` makes a `multiple` of just these, stably sorted by
effective end.  Its range is their hull, which has an end, and not before its begin; and however
the mutations are divided into groups, none of them empty, combining the groups first and then what
they have become comes to the same range. -/
theorem combine_hull {ms : List Mutation} (hms : ms ≠ []) :
    ∃ range children, combine ms = .multiple range children ∧
      Order.StablySorted (· ≤ ·) effectiveEnd ms children ∧
      IsHull ms range ∧ (∃ stop, range.stop = some stop ∧ range.start ≤ stop) ∧
      ∀ groups : List (List Mutation), groups.flatten = ms → (∀ g ∈ groups, g ≠ []) →
        (combine (groups.map combine)).range = range := by
  have hhull := isHull_combine hms
  refine ⟨_, _, rfl, Order.stablySorted_sortBy _ ms, hhull, hhull.exists_stop, ?_⟩
  rintro groups rfl hgroups
  have hsome : groups.map combine ≠ [] := by
    rintro hnil
    rw [List.map_eq_nil_iff.1 hnil] at hms
    exact hms rfl
  exact ((isHull_combine hsome).flatten hgroups).unique hhull

/-- A range whose end precedes its begin starts last and ends last, and one that starts first ends
neither first nor last. -/
theorem combine_hull_three :
    let ms : List Mutation := [.delete ⟨9, some 2⟩, .swap (.span 1 5) "x", .insert (.point 3) "y"]
    let groups : List (List Mutation) :=
      [[.delete ⟨9, some 2⟩], [.swap (.span 1 5) "x", .insert (.point 3) "y"]]
    ms ≠ [] ∧ groups.flatten = ms ∧ (∀ g ∈ groups, g ≠ []) ∧
      IsHull ms ⟨1, some 9⟩ ∧ (combine (groups.map combine)).range = ⟨1, some 9⟩ := by
  intro ms groups
  have hms : ms ≠ [] := List.cons_ne_nil _ _
  have hgroups : ∀ g ∈ groups, g ≠ [] := by decide
  obtain ⟨range, children, hcombine, -, hhull, -, hdivided⟩ := combine_hull hms
  have hrange : range = ⟨1, some 9⟩ := (congrArg Mutation.range hcombine).symm.trans (by decide)
  subst hrange
  exact ⟨hms, rfl, hgroups, hhull, hdivided groups rfl hgroups⟩

end EditWaves.Mutation
