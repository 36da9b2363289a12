import EditWaves.Proofs.Mutation.StableSort

/-!
# What the orders see of an edit

The orders and the sweep look at nothing of an edit but the place where it stands: its start and
its effective end.  A function that keeps both of them (`KeepsPlaces`) may therefore be applied to
the edits before they are ordered or after it, and the decisions of the sweep stay the same.
-/

namespace EditWaves.Order

variable {α β : Type} [Ranged α] [Ranged β]

/-- A function leaves every edit where it stands. -/
structure KeepsPlaces (f : α → β) : Prop where
  start : ∀ a, start (f a) = start a
  effectiveEnd : ∀ a, effectiveEnd (f a) = effectiveEnd a

/-- What keeps the range keeps the place. -/
theorem KeepsPlaces.of_range {f : α → β} (h : ∀ a, Ranged.range (f a) = Ranged.range a) :
    KeepsPlaces f where
  start a := congrArg EditRange.start (h a)
  effectiveEnd a := congrArg EditRange.effectiveEnd (h a)

/-- An edit stands where it stands without its label. -/
theorem keepsPlaces_snd {ι : Type} : KeepsPlaces (Prod.snd : ι × α → α) := .of_range (fun _ => rfl)

/-- The same decision about what an edit is mapped to. -/
def Verdict.map (f : α → β) : Verdict α → Verdict β
  | .kept a => .kept (f a)
  | .dropped a keptStart => .dropped (f a) keptStart

section Map

variable {f : α → β} (hf : KeepsPlaces f)

include hf

theorem effectiveEnd_comp : effectiveEnd ∘ f = effectiveEnd := funext hf.effectiveEnd

theorem firstToLast_map (l : List α) : firstToLast (l.map f) = (firstToLast l).map f := by
  rw [firstToLast, sortBy_map, effectiveEnd_comp hf]
  rfl

theorem lastToFirst_map (l : List α) : lastToFirst (l.map f) = (lastToFirst l).map f := by
  rw [lastToFirst, sortDownBy_map, effectiveEnd_comp hf]
  rfl

theorem sweepOrder_map (l : List α) : sweepOrder (l.map f) = (sweepOrder l).map f := by
  rw [sweepOrder, firstToLast_map hf, ← List.map_reverse]
  rfl

theorem verdicts_map (bound : Option Nat) (l : List α) :
    verdicts bound (l.map f) = (verdicts bound l).map (Verdict.map f) := by
  induction l generalizing bound with
  | nil => cases bound <;> rfl
  | cons a l ih =>
    cases bound with
    | none => simp only [List.map_cons, verdicts, ih, hf.start, Verdict.map]
    | some keptStart =>
      simp only [List.map_cons, verdicts, hf.effectiveEnd, hf.start]
      split
      · rw [ih, List.map_cons, Verdict.map]
      · rw [ih, List.map_cons, Verdict.map]

/-- The sweep sees nothing of an edit but its place. -/
theorem sweep_map (l : List α) : sweep (l.map f) = (sweep l).map f := by
  rw [sweep, sweepOrder_map hf, verdicts_map hf, List.filterMap_map, sweep, List.map_filterMap]
  refine List.filterMap_congr ?_
  rintro (a | ⟨a, keptStart⟩) _ <;> rfl

theorem drops_map (l : List α) : drops (l.map f) = (drops l).map (Prod.map f id) := by
  rw [drops, sweepOrder_map hf, verdicts_map hf, List.filterMap_map, drops, List.map_filterMap]
  refine List.filterMap_congr ?_
  rintro (a | ⟨a, keptStart⟩) _ <;> rfl

end Map

end EditWaves.Order
