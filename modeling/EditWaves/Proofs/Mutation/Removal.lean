import EditWaves.Proofs.Mutation.Choice
import EditWaves.Proofs.Mutation.Place

/-!
# Edits that have no say in the sweep

The sweep goes on from the edit kept last.  An edit that it drops leaves no trace in it, and
what it decides down to a position is settled before it meets an edit below.

A list may hold the same edit twice, once kept and once dropped, so edits are told apart by
their positions (`labelled`); the sweep does not see these labels (`sweep_map`, `drops_map`).

* `sweep_filter`: what may be left out is everything that is not kept.
* `sweep_sweep`: what is kept is kept again.
* `sweep_filter_ge`: the sweep above a position is the upper part of the whole.
* `sweep_unaffected`: all of it for every list.
-/

namespace EditWaves.Order

variable {α : Type}

/-! ## Labels -/

/-- The edits of a list, each with its position. -/
def labelled (l : List α) : List (Fin l.length × α) :=
  (List.finRange l.length).map (fun j => (j, l.get j))

theorem map_labelled (l : List α) : (labelled l).map Prod.snd = l := by
  rw [labelled, List.map_map]
  exact List.map_get_finRange l

theorem nodup_labelled (l : List α) : (labelled l).Nodup := by
  refine List.Nodup.of_map Prod.fst ?_
  rw [labelled, List.map_map]
  exact (List.map_id _).symm ▸ List.nodup_finRange l.length

/-- The labels of the edits that are left do not show. -/
theorem chosen_eq_map (l : List α) (keep : Fin l.length → Bool) :
    chosen l keep = ((labelled l).filter (fun p => keep p.1)).map Prod.snd := by
  rw [chosen, labelled, List.filter_map, List.map_map]
  rfl

variable [Ranged α]

theorem sweep_labelled (l : List α) : (sweep (labelled l)).map Prod.snd = sweep l := by
  rw [← sweep_map keepsPlaces_snd, map_labelled]

theorem drops_labelled (l : List α) :
    (drops (labelled l)).map (Prod.map Prod.snd id) = drops l := by
  rw [← drops_map keepsPlaces_snd, map_labelled]

/-- The sweep drops the edit at a position. -/
def Drops (l : List α) (j : Fin l.length) : Prop :=
  ∃ keptStart, ((j, l.get j), keptStart) ∈ drops (labelled l)

/-! ## Dropped edits -/

theorem kept_cons_of_kept {bound : Option Nat} {a : α} (h : verdict bound a = .kept a)
    (l : List α) : kept bound (a :: l) = a :: kept (some (start a)) l := by
  rw [kept_cons, h]
  rfl

theorem kept_cons_of_dropped {bound : Option Nat} {a : α} {keptStart : Nat}
    (h : verdict bound a = .dropped a keptStart) (l : List α) :
    kept bound (a :: l) = kept bound l := by
  rw [kept_cons, h]
  rfl

/-- What is left out without being kept leaves no trace. -/
theorem kept_filter {p : α → Bool} {bound : Option Nat} {l : List α}
    (h : ∀ a ∈ kept bound l, p a = true) : kept bound (l.filter p) = kept bound l := by
  induction l generalizing bound with
  | nil => rfl
  | cons a l ih =>
    rcases verdict_cases bound a with hkept | ⟨keptStart, -, -, hdropped⟩
    · rw [kept_cons_of_kept hkept] at h ⊢
      obtain ⟨ha, hl⟩ := List.forall_mem_cons.1 h
      rw [List.filter_cons_of_pos ha, kept_cons_of_kept hkept, ih hl]
    · rw [kept_cons_of_dropped hdropped] at h ⊢
      cases ha : p a with
      | true =>
        rw [List.filter_cons_of_pos ha, kept_cons_of_dropped hdropped, ih h]
      | false =>
        rw [List.filter_cons_of_neg (by rw [ha]; decide), ih h]

theorem sweepOrder_filter (p : α → Bool) (l : List α) :
    sweepOrder (l.filter p) = (sweepOrder l).filter p := by
  rw [sweepOrder, firstToLast, sortBy_filter, ← List.filter_reverse]
  rfl

/-- Of a list everything may be left out that the sweep does not keep. -/
theorem sweep_filter {p : α → Bool} {l : List α} (h : ∀ a ∈ sweep l, p a = true) :
    sweep (l.filter p) = sweep l := by
  rw [sweep_eq_kept, sweepOrder_filter]
  exact kept_filter h

/-- Every edit that the sweep meets is kept or dropped. -/
theorem perm_verdicts (bound : Option Nat) (l : List α) :
    (kept bound l ++ ((verdicts bound l).filterMap Verdict.dropped?).map Prod.fst).Perm l := by
  induction l generalizing bound with
  | nil => cases bound <;> exact .refl _
  | cons a l ih =>
    rcases verdict_cases bound a with hkept | ⟨keptStart, -, -, hdropped⟩
    · rw [kept_cons_of_kept hkept, verdicts_cons, hkept]
      exact (ih _).cons a
    · rw [kept_cons_of_dropped hdropped, verdicts_cons, hdropped]
      exact List.perm_middle.trans ((ih _).cons a)

/-- An edit that is dropped is not kept as well, if it occurs only once. -/
theorem not_mem_sweep_of_mem_drops {l : List α} (hl : l.Nodup) {d : α × Nat}
    (hd : d ∈ drops l) : d.1 ∉ sweep l := by
  have hnodup := ((perm_verdicts none (sweepOrder l)).trans (perm_sweepOrder l)).nodup_iff.2 hl
  intro hkept
  exact (List.nodup_append.1 hnodup).2.2 _ hkept _ (List.mem_map_of_mem hd) rfl

section Chosen

variable {l : List α} {keep : Fin l.length → Bool} (h : ∀ j, keep j = false → Drops l j)

include h

/-- Without dropped edits the same positions are kept. -/
theorem sweep_filter_labelled :
    sweep ((labelled l).filter (fun p => keep p.1)) = sweep (labelled l) := by
  refine sweep_filter ?_
  intro p hp
  by_contra hgone
  obtain ⟨j, -, rfl⟩ := List.mem_map.1 (mem_of_mem_sweep hp)
  obtain ⟨keptStart, hdrop⟩ := h j (by simpa using hgone)
  exact not_mem_sweep_of_mem_drops (nodup_labelled l) hdrop hp

/-- Without dropped edits the same edits are kept. -/
theorem sweep_chosen : sweep (chosen l keep) = sweep l := by
  calc sweep (chosen l keep)
      = (sweep ((labelled l).filter (fun p => keep p.1))).map Prod.snd := by
        rw [chosen_eq_map, sweep_map keepsPlaces_snd]
    _ = (sweep (labelled l)).map Prod.snd := by rw [sweep_filter_labelled h]
    _ = sweep l := sweep_labelled l

end Chosen

/-! ## Kept edits and edits above a position -/

/-- Sweeping again changes nothing. -/
theorem sweep_sweep (l : List α) : sweep (sweep l) = sweep l := by
  have hapart : (sweep l).Pairwise StrictlyApart := (pairwise_sweep l).imp Or.inr
  rw [sweep_of_strictlyApart hapart]
  exact eq_of_perm_of_down (perm_sweepOrder _) (pairwise_sweepOrder_of_strictlyApart hapart)
    (pairwise_sweep l)

/-- What is kept of a descending list above a position is settled above it. -/
theorem kept_filter_ge (t : Nat) {bound : Option Nat} {l : List α}
    (hdown : l.Pairwise (fun a b => effectiveEnd b ≤ effectiveEnd a)) :
    kept bound (l.filter (fun a => t ≤ effectiveEnd a))
      = (kept bound l).filter (fun a => t ≤ effectiveEnd a) := by
  induction l generalizing bound with
  | nil => rw [List.filter_nil, kept_nil, List.filter_nil]
  | cons a l ih =>
    obtain ⟨ha, hl⟩ := List.pairwise_cons.1 hdown
    by_cases hat : t ≤ effectiveEnd a
    · rw [List.filter_cons_of_pos (by simpa using hat)]
      rcases verdict_cases bound a with hkept | ⟨keptStart, -, -, hdropped⟩
      · rw [kept_cons_of_kept hkept, kept_cons_of_kept hkept, ih hl,
          List.filter_cons_of_pos (by simpa using hat)]
      · rw [kept_cons_of_dropped hdropped, kept_cons_of_dropped hdropped, ih hl]
    · -- The edits below the first one are below the position as well.
      have hbelow : ∀ b ∈ a :: l, ¬ t ≤ effectiveEnd b := by
        intro b hb
        rcases List.mem_cons.1 hb with rfl | hb
        · exact hat
        · have hba := ha b hb
          omega
      have hnone : ∀ m : List α, m.Sublist (a :: l) →
          m.filter (fun b => t ≤ effectiveEnd b) = [] := by
        intro m hm
        refine List.filter_eq_nil_iff.2 ?_
        intro b hb
        simpa using hbelow b (hm.mem hb)
      rw [hnone _ (List.Sublist.refl _), hnone _ (kept_sublist bound _), kept_nil]

/-- The edits above a position are swept as if there were none below. -/
theorem sweep_filter_ge (t : Nat) (l : List α) :
    sweep (l.filter (fun a => t ≤ effectiveEnd a))
      = (sweep l).filter (fun a => t ≤ effectiveEnd a) := by
  rw [sweep_eq_kept, sweepOrder_filter, kept_filter_ge t (pairwise_sweepOrder l)]
  rfl

/-- For every list: any of the edits that are dropped may be left out, and the same edits are
kept, at the same positions; sweeping what is kept keeps all of it; and of the edits that end
at a position or above those are kept that are kept of the whole.  Which edits are kept and
dropped is told by position, which the sweep does not see. -/
theorem sweep_unaffected (l : List α) :
    (sweep (labelled l)).map Prod.snd = sweep l ∧
    (drops (labelled l)).map (Prod.map Prod.snd id) = drops l ∧
    (∀ keep : Fin l.length → Bool, (∀ j, keep j = false → Drops l j) →
      sweep (chosen l keep) = sweep l ∧
      sweep ((labelled l).filter (fun p => keep p.1)) = sweep (labelled l)) ∧
    sweep (sweep l) = sweep l ∧
    ∀ t, sweep (l.filter (fun a => t ≤ effectiveEnd a))
      = (sweep l).filter (fun a => t ≤ effectiveEnd a) := by
  refine ⟨sweep_labelled l, drops_labelled l, ?_, sweep_sweep l, fun t => sweep_filter_ge t l⟩
  intro keep hkeep
  exact ⟨sweep_chosen hkeep, sweep_filter_labelled hkeep⟩

/-- The first of two equal insertions is dropped, and so is a deletion that reaches a swap. -/
theorem sweep_unaffected_twice :
    let l : List Mutation := [.insert (.point 4) "a", .insert (.point 4) "a",
      .delete (.span 0 2), .swap (.span 1 3) "b"]
    let keep : Fin l.length → Bool := fun j => [false, true, false, true].getD j true
    (∀ j, keep j = false → Drops l j) ∧
      chosen l keep = [.insert (.point 4) "a", .swap (.span 1 3) "b"] ∧
      sweep (chosen l keep) = sweep l := by
  intro l keep
  have hdrops : ∀ j, keep j = false → Drops l j := by
    intro j hj
    match j with
    | 0 => exact ⟨4, List.mem_cons_self⟩
    | 1 => cases hj
    | 2 => exact ⟨1, List.mem_cons_of_mem _ List.mem_cons_self⟩
    | 3 => cases hj
  exact ⟨hdrops, rfl, ((sweep_unaffected l).2.2.1 keep hdrops).1⟩

end EditWaves.Order
