import Mathlib.Data.List.Perm.Basic
import EditWaves.Proofs.Mutation.Hull
import EditWaves.Proofs.Mutation.Sweep
import EditWaves.Proofs.Workspace.Pipeline

/-!
# Groups of edits

Edits that are strictly apart can be put into groups, each combined to one mutation, without
a change to what they do.  The sweep over the groups and the order of the children inside
each group meet the edits as the sweep over all of them does, since there is only one order
in which edits that are strictly apart go down.

* `strictlyApart_flatten`: edits of different groups are as far apart as their groups, since a
  combined mutation reaches over all that it combines.
* `flatMap_parts_sweep`: the parts of the kept groups are the kept edits, in order.
* `applyFile_grouped`: a file does not show how its edits were grouped.
-/

open EditWaves.Order (StrictlyApart)

namespace EditWaves

namespace Mutation

/-! ## Combined mutations -/

/-- The parts of a combined mutation are what it combines. -/
theorem perm_parts_combine (g : List Mutation) : (combine g).parts.Perm g :=
  (perm_lastToFirst _).trans (perm_firstToLast g)

theorem pairwise_parts_combine {g : List Mutation} (hg : g.Pairwise StrictlyApart) :
    (combine g).parts.Pairwise (fun a b => b.effectiveEnd < a.start) :=
  Order.pairwise_of_strictlyApart ((perm_parts_combine g).symm.pairwise hg StrictlyApart.symm)
    (Order.stablySorted_sortDownBy _ _).ordered

/-! ## Groups that are strictly apart -/

variable {groups : List (List Mutation)} (hinside : ∀ g ∈ groups, g.Pairwise StrictlyApart)
  (hbetween : (groups.map combine).Pairwise StrictlyApart)

include hinside hbetween

/-- Edits of different groups are as far apart as their groups. -/
theorem strictlyApart_flatten : groups.flatten.Pairwise StrictlyApart := by
  rw [List.pairwise_flatten]
  refine ⟨hinside, (List.pairwise_map.1 hbetween).imp ?_⟩
  intro g h hgh a ha b hb
  obtain ⟨hga, hag⟩ := mem_bounds_combine ha
  obtain ⟨hhb, hbh⟩ := mem_bounds_combine hb
  rcases hgh with hgh | hgh
  · have hgh : (combine g).effectiveEnd < (combine h).start := hgh
    exact .inl (show a.effectiveEnd < b.start by omega)
  · have hgh : (combine h).effectiveEnd < (combine g).start := hgh
    exact .inr (show b.effectiveEnd < a.start by omega)

/-- The parts of the groups that are kept are the edits that are kept, in order. -/
theorem flatMap_parts_sweep :
    (sweep (groups.map combine)).flatMap parts = sweep groups.flatten := by
  have hflat := strictlyApart_flatten hinside hbetween
  have hgroups : sweep (groups.map combine) = Order.sweepOrder (groups.map combine) :=
    Order.sweep_of_strictlyApart hbetween
  have hedits : sweep groups.flatten = Order.sweepOrder groups.flatten :=
    Order.sweep_of_strictlyApart hflat
  have hperm : (Order.sweepOrder (groups.map combine)).Perm (groups.map combine) :=
    Order.perm_sweepOrder _
  rw [hgroups, hedits]
  refine Order.eq_of_perm_of_down ?_ ?_ (Order.pairwise_sweepOrder_of_strictlyApart hflat)
  · have hparts : ((groups.map combine).flatMap parts).Perm groups.flatten := by
      rw [List.flatMap_map, List.flatten_eq_flatMap]
      exact List.Perm.flatMap_left _ (fun g _ => perm_parts_combine g)
    exact (hperm.flatMap_right parts).trans (hparts.trans (Order.perm_sweepOrder _).symm)
  · rw [List.pairwise_flatMap]
    refine ⟨?_, (Order.pairwise_sweepOrder_of_strictlyApart hbetween).imp_of_mem ?_⟩
    · intro m hm
      obtain ⟨g, hg, rfl⟩ := List.mem_map.1 (hperm.mem_iff.1 hm)
      exact pairwise_parts_combine (hinside g hg)
    · intro m n hm hn hlt a ha b hb
      obtain ⟨g, -, rfl⟩ := List.mem_map.1 (hperm.mem_iff.1 hm)
      obtain ⟨h, -, rfl⟩ := List.mem_map.1 (hperm.mem_iff.1 hn)
      obtain ⟨hga, -⟩ := mem_bounds_combine ((perm_parts_combine g).mem_iff.1 ha)
      obtain ⟨-, hbh⟩ := mem_bounds_combine ((perm_parts_combine h).mem_iff.1 hb)
      have hlt : (combine h).effectiveEnd < (combine g).start := hlt
      exact (show b.effectiveEnd < a.start by omega)

end Mutation

/-- Whether edits are applied to a file in groups or one by one does not show: neither in the
contents or the fault, nor in the mutations that are skipped, those that plug-ins dispatch
included.  The edits of each group and the groups have to be strictly apart, and `multiple` has to
have its built-in mutator. -/
theorem applyFile_grouped {φ : Type} [FileAccess φ] (w : Workspace φ) (name : String)
    (groups : List (List Mutation))
    (hmultiple : w.resolver.lookup Tag.multiple = some .multiple)
    (hinside : ∀ g ∈ groups, g.Pairwise StrictlyApart)
    (hbetween : (groups.map Mutation.combine).Pairwise StrictlyApart) :
    let grouped := w.applyFile name (groups.map Mutation.combine)
    let flat := w.applyFile name groups.flatten
    grouped.1 = flat.1 ∧ grouped.2.1.files = flat.2.1.files ∧
      Log.skipped grouped.2.2 = Log.skipped flat.2.2 := by
  refine Workspace.applyFile_congr w name ?_
  intro contents
  rw [← Mutation.flatMap_parts_sweep hinside hbetween,
    Lookup.dispatchAll_flatMap_parts contents hmultiple]

/-- Two groups whose edits are not in order, with a mutation that is skipped and one whose plug-in
dispatches another that is, applied to a file that is there and cannot be written. -/
theorem applyFile_grouped_two :
    let shout : Mutation := .custom (.span 0 1) "text-shout" .empty
    let relay : Plugin := {
      act contents _ := .ask (.dispatch contents shout) .done
      pure _ _ := .ask nofun .done }
    let plugins (tag : String) := if tag = "relay" then some (Mutator.plugin relay) else none
    let w : Workspace Store := .new ⟨.ofList [("a.txt", .new "hello world" [] [0])]⟩
      (.ofSearchers [.registry Searcher.builtins, .lookup plugins])
    let groups : List (List Mutation) :=
      [[.swap (.span 6 9) "there", .custom (.span 10 11) "relay" .empty],
        [.insert (.point 3) "-", shout, .delete ⟨4, some 2⟩]]
    w.resolver.lookup Tag.multiple = some .multiple ∧
      (∀ g ∈ groups, g.Pairwise StrictlyApart) ∧
      (groups.map Mutation.combine).Pairwise StrictlyApart ∧
      (w.applyFile "a.txt" (groups.map Mutation.combine)).1
        = (w.applyFile "a.txt" groups.flatten).1 ∧
      Log.skipped (w.applyFile "a.txt" (groups.map Mutation.combine)).2.2
        = Log.skipped (w.applyFile "a.txt" groups.flatten).2.2 := by
  intro shout relay plugins w groups
  have hmultiple : w.resolver.lookup Tag.multiple = some .multiple := rfl
  have hinside : ∀ g ∈ groups, g.Pairwise StrictlyApart := by decide
  have hbetween : (groups.map Mutation.combine).Pairwise StrictlyApart := by decide
  obtain ⟨hresult, -, hskipped⟩ :=
    applyFile_grouped w "a.txt" groups hmultiple hinside hbetween
  exact ⟨hmultiple, hinside, hbetween, hresult, hskipped⟩

end EditWaves
