import Mathlib.Data.List.Sort
import EditWaves.Mutation.Order

/-!
# The stable sorts of edits

Edits are ordered by two sorts that differ only in their direction.  Both are insertion
sorts, and what they have in common is said once, with the direction `le` as a parameter:
the result is a rearrangement, its keys go in that direction, and elements with one key
stand in it as they stood before.

* `StablySorted.pairwise_tied`: what such a sort keeps between elements with one key.
* `StablySorted.unique`: there is only one such result, so sorting commutes with everything
  that keeps keys in their order (`StablySorted.trans`, `StablySorted.filter`).
* `stablySorted_insertionSort`: this holds for every direction.
* `stablySorted_sortBy`, `stablySorted_sortDownBy`: the two directions in use, which mirror
  each other (`sortDownBy_eq_reverse`).
-/

namespace EditWaves.Order

variable {α : Type}

/-- A list is another one with its keys in the order `le`; elements with one key have kept
their order. -/
structure StablySorted (le : Nat → Nat → Prop) (key : α → Nat) (before after : List α) :
    Prop where
  perm : after.Perm before
  ordered : after.Pairwise (fun a b => le (key a) (key b))
  stable : ∀ k, after.filter (fun a => key a = k) = before.filter (fun a => key a = k)

/-- What holds in the sublist of every key holds between elements with one key. -/
theorem pairwise_of_filter {T : α → α → Prop} {key : α → Nat} {l : List α}
    (h : ∀ k, (l.filter (fun a => key a = k)).Pairwise T) :
    l.Pairwise (fun a b => key a = key b → T a b) := by
  induction l with
  | nil => exact .nil
  | cons a l ih =>
    refine List.pairwise_cons.2 ⟨?_, ih ?_⟩
    · intro b hb hab
      have hka := h (key a)
      rw [List.filter_cons_of_pos (by simp)] at hka
      have hmem : b ∈ l.filter (fun c => key c = key a) :=
        List.mem_filter.2 ⟨hb, by simpa using hab.symm⟩
      exact (List.pairwise_cons.1 hka).1 b hmem
    · intro k
      exact (h k).sublist ((List.sublist_cons_self a l).filter _)

/-- A stable sort keeps what holds between elements with one key in their order. -/
theorem StablySorted.pairwise_tied {le : Nat → Nat → Prop} {key : α → Nat}
    {before after : List α} (h : StablySorted le key before after) {T : α → α → Prop}
    (hbefore : before.Pairwise T) : after.Pairwise (fun a b => key a = key b → T a b) := by
  refine pairwise_of_filter ?_
  intro k
  rw [h.stable k]
  exact hbefore.filter _

/-! ## One result for each direction -/

section Unique

variable {le : Nat → Nat → Prop} {key : α → Nat}

theorem mem_of_filter_eq {l l' : List α}
    (h : ∀ k, l.filter (fun a => key a = k) = l'.filter (fun a => key a = k)) {a : α}
    (ha : a ∈ l) : a ∈ l' := by
  have hfilter : a ∈ l.filter (fun b => key b = key a) :=
    List.mem_filter.2 ⟨ha, by simp⟩
  rw [h (key a)] at hfilter
  exact (List.mem_filter.1 hfilter).1

/-- An ordered list is determined by its elements of each key. -/
theorem eq_of_filter_eq [Std.Antisymm le] {l l' : List α}
    (hl : l.Pairwise (fun a b => le (key a) (key b)))
    (hl' : l'.Pairwise (fun a b => le (key a) (key b)))
    (h : ∀ k, l.filter (fun a => key a = k) = l'.filter (fun a => key a = k)) : l = l' := by
  induction l generalizing l' with
  | nil =>
    refine (List.eq_nil_iff_forall_not_mem.2 ?_).symm
    intro a ha
    cases mem_of_filter_eq (fun k => (h k).symm) ha
  | cons a l ih =>
    cases l' with
    | nil => cases mem_of_filter_eq h List.mem_cons_self
    | cons b l' =>
      obtain ⟨ha, hrest⟩ := List.pairwise_cons.1 hl
      obtain ⟨hb, hrest'⟩ := List.pairwise_cons.1 hl'
      have hkey : key a = key b := by
        rcases List.mem_cons.1 (mem_of_filter_eq h List.mem_cons_self) with rfl | hmem
        · rfl
        · rcases List.mem_cons.1 (mem_of_filter_eq (fun k => (h k).symm)
            List.mem_cons_self) with rfl | hmem'
          · rfl
          · exact Std.Antisymm.antisymm _ _ (ha b hmem') (hb a hmem)
      have hhead := h (key a)
      rw [List.filter_cons_of_pos (by simp), List.filter_cons_of_pos (by simp [hkey])] at hhead
      obtain rfl : a = b := (List.cons.inj hhead).1
      have htail : ∀ k, l.filter (fun c => key c = k) = l'.filter (fun c => key c = k) := by
        intro k
        have hk := h k
        simp only [List.filter_cons] at hk
        split at hk
        · exact (List.cons.inj hk).2
        · exact hk
      rw [ih hrest hrest' htail]

variable {before before' after after' : List α}

/-- A list has only one stable arrangement in a direction. -/
theorem StablySorted.unique [Std.Antisymm le] (h : StablySorted le key before after)
    (h' : StablySorted le key before after') : after = after' :=
  eq_of_filter_eq h.ordered h'.ordered (fun k => (h.stable k).trans (h'.stable k).symm)

/-- What has been sorted in one direction is sorted in another one as if it had not been. -/
theorem StablySorted.trans {le' : Nat → Nat → Prop} (h : StablySorted le' key before before')
    (h' : StablySorted le key before' after) : StablySorted le key before after where
  perm := h'.perm.trans h.perm
  ordered := h'.ordered
  stable k := (h'.stable k).trans (h.stable k)

/-- Elements may be left out before sorting or after it. -/
theorem StablySorted.filter (h : StablySorted le key before after) (p : α → Bool) :
    StablySorted le key (before.filter p) (after.filter p) where
  perm := h.perm.filter p
  ordered := h.ordered.filter p
  stable k := by
    rw [List.filter_comm, h.stable k, List.filter_comm]

/-- A function that keeps keys may be applied before sorting or after it. -/
theorem StablySorted.map {β : Type} {key : β → Nat} {f : α → β}
    (h : StablySorted le (key ∘ f) before after) :
    StablySorted le key (before.map f) (after.map f) where
  perm := h.perm.map f
  ordered := List.pairwise_map.2 h.ordered
  stable k := by
    have hstable := congrArg (List.map f) (h.stable k)
    rw [List.filter_map, List.filter_map]
    exact hstable

/-- A sorted list read backwards is one in the other direction, of the list before sorting read
backwards. -/
theorem StablySorted.reverse (h : StablySorted le key before after) :
    StablySorted (fun m n => le n m) key before.reverse after.reverse where
  perm := (List.reverse_perm after).trans (h.perm.trans (List.reverse_perm before).symm)
  ordered := List.pairwise_reverse.2 h.ordered
  stable k := by
    rw [List.filter_reverse, List.filter_reverse, h.stable k]

/-- Where no two elements have one key, the order before sorting does not show. -/
theorem StablySorted.eq_of_perm [Std.Antisymm le] (h : StablySorted le key before after)
    (h' : StablySorted le key before' after') (hperm : before.Perm before')
    (hkeys : (before.map key).Nodup) : after = after' := by
  refine List.Perm.eq_of_pairwise ?_ h.ordered h'.ordered
    (h.perm.trans (hperm.trans h'.perm.symm))
  intro a b ha hb hab hba
  have ha : a ∈ before := h.perm.mem_iff.1 ha
  have hb : b ∈ before := hperm.mem_iff.2 (h'.perm.mem_iff.1 hb)
  exact List.inj_on_of_nodup_map hkeys ha hb (Std.Antisymm.antisymm _ _ hab hba)

end Unique

section Direction

variable (le : Nat → Nat → Prop) [DecidableRel le] [Std.Total le] (key : α → Nat) (l : List α)

/-- Elements with one key are in order already, so sorting leaves them as they stand. -/
theorem filter_insertionSort (k : Nat) :
    (l.insertionSort (fun a b => le (key a) (key b))).filter (fun a => key a = k)
      = l.filter (fun a => key a = k) := by
  have htied : (l.filter (fun a => key a = k)).Pairwise (fun a b => le (key a) (key b)) := by
    refine List.pairwise_of_forall_mem_list ?_
    intro a ha b hb
    have hka : key a = k := by simpa using (List.mem_filter.1 ha).2
    have hkb : key b = k := by simpa using (List.mem_filter.1 hb).2
    rw [hka, hkb]
    exact (Std.Total.total k k).elim id id
  have hsub : (l.filter (fun a => key a = k)).Sublist
      ((l.insertionSort (fun a b => le (key a) (key b))).filter (fun a => key a = k)) := by
    have hwhole := (List.sublist_insertionSort htied List.filter_sublist).filter
      (fun a => key a = k)
    rwa [List.filter_filter, List.filter_congr (fun a _ => Bool.and_self _)] at hwhole
  have hlength := ((List.perm_insertionSort (fun a b => le (key a) (key b)) l).filter
    (fun a => key a = k)).length_eq
  exact (hsub.eq_of_length hlength.symm).symm

theorem stablySorted_insertionSort [IsTrans Nat le] :
    StablySorted le key l (l.insertionSort (fun a b => le (key a) (key b))) := by
  have htotal : Std.Total (fun a b : α => le (key a) (key b)) :=
    ⟨fun a b => Std.Total.total (key a) (key b)⟩
  have htrans : IsTrans α (fun a b => le (key a) (key b)) :=
    ⟨fun a b c => IsTrans.trans (key a) (key b) (key c)⟩
  exact ⟨List.perm_insertionSort _ l, List.pairwise_insertionSort _ l,
    filter_insertionSort le key l⟩

end Direction

/-! ## The two directions -/

theorem insertBy_eq_orderedInsert (key : α → Nat) (a : α) (l : List α) :
    insertBy key a l = l.orderedInsert (fun a b => key a ≤ key b) a := by
  induction l with
  | nil => rfl
  | cons b rest ih => rw [insertBy, List.orderedInsert_cons, ih]

theorem sortBy_eq_insertionSort (key : α → Nat) (l : List α) :
    sortBy key l = l.insertionSort (fun a b => key a ≤ key b) := by
  induction l with
  | nil => rfl
  | cons a rest ih => rw [sortBy, List.insertionSort_cons, ih, insertBy_eq_orderedInsert]

theorem insertDownBy_eq_orderedInsert (key : α → Nat) (a : α) (l : List α) :
    insertDownBy key a l = l.orderedInsert (fun a b => key a ≥ key b) a := by
  induction l with
  | nil => rfl
  | cons b rest ih => rw [insertDownBy, List.orderedInsert_cons, ih]

theorem sortDownBy_eq_insertionSort (key : α → Nat) (l : List α) :
    sortDownBy key l = l.insertionSort (fun a b => key a ≥ key b) := by
  induction l with
  | nil => rfl
  | cons a rest ih => rw [sortDownBy, List.insertionSort_cons, ih, insertDownBy_eq_orderedInsert]

/-- The ascending sort is stable. -/
theorem stablySorted_sortBy (key : α → Nat) (l : List α) :
    StablySorted (· ≤ ·) key l (sortBy key l) := by
  rw [sortBy_eq_insertionSort]
  exact stablySorted_insertionSort (· ≤ ·) key l

/-- The descending sort is stable. -/
theorem stablySorted_sortDownBy (key : α → Nat) (l : List α) :
    StablySorted (· ≥ ·) key l (sortDownBy key l) := by
  rw [sortDownBy_eq_insertionSort]
  exact stablySorted_insertionSort (· ≥ ·) key l

theorem sortBy_filter (key : α → Nat) (p : α → Bool) (l : List α) :
    sortBy key (l.filter p) = (sortBy key l).filter p :=
  (stablySorted_sortBy key _).unique ((stablySorted_sortBy key l).filter p)

theorem sortBy_map {β : Type} (key : β → Nat) (f : α → β) (l : List α) :
    sortBy key (l.map f) = (sortBy (key ∘ f) l).map f :=
  (stablySorted_sortBy key _).unique (stablySorted_sortBy (key ∘ f) l).map

theorem sortDownBy_filter (key : α → Nat) (p : α → Bool) (l : List α) :
    sortDownBy key (l.filter p) = (sortDownBy key l).filter p :=
  (stablySorted_sortDownBy key _).unique ((stablySorted_sortDownBy key l).filter p)

theorem sortDownBy_map {β : Type} (key : β → Nat) (f : α → β) (l : List α) :
    sortDownBy key (l.map f) = (sortDownBy (key ∘ f) l).map f :=
  (stablySorted_sortDownBy key _).unique (stablySorted_sortDownBy (key ∘ f) l).map

/-- Sorting down mirrors sorting up.  The list is turned as well, since elements with one key
would otherwise come out in the reverse of their order. -/
theorem sortDownBy_eq_reverse (key : α → Nat) (l : List α) :
    sortDownBy key l = (sortBy key l.reverse).reverse := by
  have hmirror := (stablySorted_sortBy key l.reverse).reverse
  rw [List.reverse_reverse] at hmirror
  exact (stablySorted_sortDownBy key l).unique hmirror

/-- Sorting up first does not show after sorting down. -/
theorem sortDownBy_sortBy (key : α → Nat) (l : List α) :
    sortDownBy key (sortBy key l) = sortDownBy key l :=
  ((stablySorted_sortBy key l).trans (stablySorted_sortDownBy key _)).unique
    (stablySorted_sortDownBy key l)

end EditWaves.Order
