import EditWaves.Proofs.Mutation.StableSort

/-!
# What the sweep keeps

The sweep compares an edit only with the start of the edit kept last.  Since no
range ends before it starts, these starts go down, and an edit below the last of
them is below all of them: `pairwise_sweep` says that any two kept edits are
strictly apart.  Where all edits are, the sweep drops none (`sweep_of_strictlyApart`).
-/

namespace EditWaves.Order

variable {α : Type} [Ranged α]

theorem start_le_effectiveEnd (a : α) : start a ≤ effectiveEnd a :=
  (Ranged.range a).start_le_effectiveEnd

/-- The edits that are kept when the edit kept last starts at `bound`. -/
def kept (bound : Option Nat) (l : List α) : List α :=
  (verdicts bound l).filterMap Verdict.kept?

theorem sweep_eq_kept (l : List α) : sweep l = kept none (sweepOrder l) := rfl

@[simp] theorem kept_nil (bound : Option Nat) : kept bound ([] : List α) = [] := by
  cases bound <;> rfl

theorem kept_none_cons (a : α) (l : List α) :
    kept none (a :: l) = a :: kept (some (start a)) l := rfl

theorem kept_some_cons (b : Nat) (a : α) (l : List α) :
    kept (some b) (a :: l) =
      if b ≤ effectiveEnd a then kept (some b) l else a :: kept (some (start a)) l := by
  simp only [kept, verdicts]
  split <;> rfl

theorem kept_sublist (bound : Option Nat) (l : List α) : (kept bound l).Sublist l := by
  induction l generalizing bound with
  | nil => simp
  | cons a l ih =>
    cases bound with
    | none =>
      rw [kept_none_cons]
      exact (ih _).cons_cons a
    | some b =>
      rw [kept_some_cons]
      split
      · exact (ih _).cons a
      · exact (ih _).cons_cons a

/-- Everything that is kept lies below the edit kept last. -/
theorem effectiveEnd_lt_of_mem_kept {b : Nat} {l : List α} {a : α}
    (h : a ∈ kept (some b) l) : effectiveEnd a < b := by
  induction l generalizing b with
  | nil => simp at h
  | cons c l ih =>
    rw [kept_some_cons] at h
    split at h
    · exact ih h
    · rename_i hc
      rcases List.mem_cons.1 h with rfl | h
      · omega
      · have hac : effectiveEnd a < start c := ih h
        have hcc := start_le_effectiveEnd c
        omega

theorem pairwise_kept (bound : Option Nat) (l : List α) :
    (kept bound l).Pairwise (fun a b => effectiveEnd b < start a) := by
  induction l generalizing bound with
  | nil => simp
  | cons a l ih =>
    have hcons : (a :: kept (some (start a)) l).Pairwise
        (fun a b => effectiveEnd b < start a) :=
      List.pairwise_cons.2 ⟨fun _ hb => effectiveEnd_lt_of_mem_kept hb, ih _⟩
    cases bound with
    | none => exact hcons
    | some b =>
      rw [kept_some_cons]
      split
      · exact ih _
      · exact hcons

/-- Edits that go down can only be arranged in one way. -/
theorem eq_of_perm_of_down {l l' : List α} (hperm : l.Perm l')
    (h : l.Pairwise (fun a b => effectiveEnd b < start a))
    (h' : l'.Pairwise (fun a b => effectiveEnd b < start a)) : l = l' := by
  refine List.Perm.eq_of_pairwise ?_ h h' hperm
  intro a b _ _ hab hba
  have ha := start_le_effectiveEnd a
  have hb := start_le_effectiveEnd b
  omega

/-- The sweep meets every edit. -/
theorem perm_sweepOrder (l : List α) : (sweepOrder l).Perm l :=
  (List.reverse_perm _).trans (stablySorted_sortBy effectiveEnd l).perm

/-- The sweep goes down. -/
theorem pairwise_sweepOrder (l : List α) :
    (sweepOrder l).Pairwise (fun a b => effectiveEnd b ≤ effectiveEnd a) :=
  List.pairwise_reverse.2 (stablySorted_sortBy effectiveEnd l).ordered

theorem sweep_sublist (l : List α) : (sweep l).Sublist (sweepOrder l) := by
  rw [sweep_eq_kept]
  exact kept_sublist none _

/-- The sweep keeps only edits of the list. -/
theorem mem_of_mem_sweep {l : List α} {a : α} (h : a ∈ sweep l) : a ∈ l :=
  (perm_sweepOrder l).mem_iff.1 ((sweep_sublist l).mem h)

/-- Any two kept edits are strictly apart. -/
theorem pairwise_sweep (l : List α) :
    (sweep l).Pairwise (fun a b => effectiveEnd b < start a) := by
  rw [sweep_eq_kept]
  exact pairwise_kept none _

/-! ## Edits that are strictly apart -/

/-- One of two edits ends before the other one starts. -/
def StrictlyApart (a b : α) : Prop := effectiveEnd a < start b ∨ effectiveEnd b < start a

instance (a b : α) : Decidable (StrictlyApart a b) :=
  inferInstanceAs (Decidable (effectiveEnd a < start b ∨ effectiveEnd b < start a))

theorem StrictlyApart.symm {a b : α} (h : StrictlyApart a b) : StrictlyApart b a := Or.symm h

/-- Edits that are strictly apart and descend by effective end go down from edit to edit. -/
theorem pairwise_of_strictlyApart {l : List α} (h : l.Pairwise StrictlyApart)
    (hdown : l.Pairwise (fun a b => effectiveEnd b ≤ effectiveEnd a)) :
    l.Pairwise (fun a b => effectiveEnd b < start a) := by
  refine (h.and hdown).imp ?_
  rintro a b ⟨hab | hba, hle⟩
  · have hb := start_le_effectiveEnd b
    omega
  · exact hba

theorem verdicts_of_pairwise {l : List α} {bound : Option Nat}
    (hbound : ∀ b, bound = some b → ∀ a ∈ l, effectiveEnd a < b)
    (h : l.Pairwise (fun a b => effectiveEnd b < start a)) :
    verdicts bound l = l.map .kept := by
  induction l generalizing bound with
  | nil => cases bound <;> rfl
  | cons a l ih =>
    obtain ⟨ha, hl⟩ := List.pairwise_cons.1 h
    have hrest : verdicts (some (start a)) l = l.map .kept := by
      refine ih ?_ hl
      rintro b ⟨⟩
      exact ha
    cases bound with
    | none => rw [verdicts, hrest, List.map_cons]
    | some b =>
      have hab : effectiveEnd a < b := hbound b rfl a List.mem_cons_self
      rw [verdicts, if_neg (by omega), hrest, List.map_cons]

section Whole

variable {l : List α} (h : l.Pairwise StrictlyApart)

include h

theorem pairwise_sweepOrder_of_strictlyApart :
    (sweepOrder l).Pairwise (fun a b => effectiveEnd b < start a) :=
  pairwise_of_strictlyApart ((perm_sweepOrder l).symm.pairwise h StrictlyApart.symm)
    (pairwise_sweepOrder l)

theorem verdicts_of_strictlyApart : verdicts none (sweepOrder l) = (sweepOrder l).map .kept := by
  refine verdicts_of_pairwise ?_ (pairwise_sweepOrder_of_strictlyApart h)
  rintro b ⟨⟩

/-- Edits that are strictly apart are all kept. -/
theorem sweep_of_strictlyApart : sweep l = sweepOrder l := by
  rw [sweep, verdicts_of_strictlyApart h, List.filterMap_map]
  exact List.filterMap_some

theorem drops_of_strictlyApart : drops l = [] := by
  rw [drops, verdicts_of_strictlyApart h, List.filterMap_map, List.filterMap_eq_nil_iff]
  intro a _
  rfl

end Whole

end EditWaves.Order
