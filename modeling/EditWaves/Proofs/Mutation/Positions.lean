import Mathlib.Data.Fin.Tuple.Sort
import EditWaves.Proofs.Mutation.Removal

/-!
# The positions that the orders give to edits

An order of edits says which position of the list comes first, which second, and so on.  Of all
ways to line up the positions only one goes in the direction of the effective ends and leaves
edits with one effective end as they were listed (`Arranges`).

A list may hold the same edit twice, and exchanging the two would not show in the ordered list.
The labels of `labelled` show it, so the orders are compared with the arrangement of positions.

* `arranges_up_iff`, `arranges_down_iff`: there is one such arrangement in each direction.
* `Arranges.stablySorted`: it sorts every list with these keys.
* `orders_only_stable`: the orders are these arrangements, and mirror each other.
-/

namespace EditWaves.Order

variable {α : Type} {n : Nat}

/-! ## Arrangements of positions -/

/-- Positions lined up in the direction `le` of their keys; `place i` is the position that comes
at `i`.  Positions with one key keep their order. -/
structure Arranges (le : Nat → Nat → Prop) (key : Fin n → Nat) (place : Equiv.Perm (Fin n)) :
    Prop where
  ordered : ∀ i j, i < j → le (key (place i)) (key (place j))
  stable : ∀ i j, i < j → key (place i) = key (place j) → place i < place j

/-- In the direction of a linear order that tells the keys apart there is one arrangement. -/
theorem arranges_iff_eq_sort {κ : Type} [LinearOrder κ] {rank : Nat → κ}
    (hrank : rank.Injective) {key : Fin n → Nat} {place : Equiv.Perm (Fin n)} :
    Arranges (fun a b => rank a ≤ rank b) key place ↔ place = Tuple.sort (rank ∘ key) := by
  rw [Tuple.eq_sort_iff]
  constructor
  · intro h
    refine ⟨monotone_iff_forall_lt.2 h.ordered, ?_⟩
    intro i j hij htie
    exact h.stable i j hij (hrank htie)
  · intro h
    obtain ⟨hmono, hstable⟩ := h
    refine ⟨fun i j hij => hmono (Fin.le_of_lt hij), ?_⟩
    intro i j hij htie
    exact hstable i j hij (congrArg rank htie)

section Arranges

variable {key : Fin n → Nat} {place : Equiv.Perm (Fin n)} {le : Nat → Nat → Prop}

theorem arranges_up_iff : Arranges (· ≤ ·) key place ↔ place = Tuple.sort key :=
  arranges_iff_eq_sort Function.injective_id

theorem arranges_down_iff :
    Arranges (· ≥ ·) key place ↔ place = Tuple.sort (OrderDual.toDual ∘ key) :=
  arranges_iff_eq_sort OrderDual.toDual.injective

/-- An arrangement is a stable sort of the positions themselves. -/
theorem Arranges.stablySorted_positions (h : Arranges le key place) :
    StablySorted le key (List.finRange n) (List.ofFn place) := by
  have hperm : (List.ofFn place).Perm (List.finRange n) := by
    have hplace := place.ofFn_comp_perm id
    rwa [List.ofFn_id] at hplace
  refine ⟨hperm, List.pairwise_ofFn.2 h.ordered, ?_⟩
  intro k
  -- On both sides the positions with key `k` ascend.
  have htied : ((List.ofFn place).filter (fun a => key a = k)).Pairwise (· < ·) := by
    refine List.pairwise_filter.2 (List.pairwise_ofFn.2 ?_)
    intro i j hij hi hj
    have hik : key (place i) = k := by simpa using hi
    have hjk : key (place j) = k := by simpa using hj
    exact h.stable i j hij (hik.trans hjk.symm)
  have hlisted : ((List.finRange n).filter (fun a => key a = k)).Pairwise (· < ·) :=
    (List.pairwise_lt_finRange n).filter _
  exact (hperm.filter _).eq_of_pairwise' htied hlisted

/-- An arrangement is a stable sort of everything that has the keys at the positions. -/
theorem Arranges.stablySorted {keyOf : α → Nat} {f : Fin n → α}
    (h : Arranges le (keyOf ∘ f) place) :
    StablySorted le keyOf (List.ofFn f) (List.ofFn (f ∘ place)) := by
  rw [List.ofFn_eq_map, ← List.map_ofFn]
  exact h.stablySorted_positions.map

end Arranges

/-! ## The two orders -/

section Ranged

variable [Ranged α] {l : List α}

/-- A stable sort lists the edits as their arrangement does, and their labels are its positions. -/
theorem Arranges.lists {le : Nat → Nat → Prop} [Std.Antisymm le]
    {place : Equiv.Perm (Fin l.length)} (h : Arranges le (effectiveEnd ∘ l.get) place)
    {after : List α} {after' : List (Fin l.length × α)}
    (hafter : StablySorted le effectiveEnd l after)
    (hafter' : StablySorted le effectiveEnd (labelled l) after') :
    after = List.ofFn (l.get ∘ place) ∧ after'.map Prod.fst = List.ofFn place := by
  constructor
  · have hlist := h.stablySorted
    rw [List.ofFn_get] at hlist
    exact hafter.unique hlist
  · have hlabelled : StablySorted le effectiveEnd (List.ofFn (fun j => (j, l.get j)))
        (List.ofFn (fun i => (place i, l.get (place i)))) :=
      Arranges.stablySorted h
    rw [List.ofFn_eq_map] at hlabelled
    rw [hafter'.unique hlabelled, List.map_ofFn]
    rfl

/-- Of all ways to line up the positions of a list only one goes up by effective end and leaves
positions with one effective end in their order, and only one goes down by effective end and does
so.  `firstToLast` lists the edits in the first way and `lastToFirst` in the second, position by
position, as the labels show.  Each is the mirror of the other: `lastToFirst` is `firstToLast` of
the list backwards, read backwards. -/
theorem orders_only_stable (ms : List α) :
    (∃ place, Arranges (· ≤ ·) (effectiveEnd ∘ ms.get) place ∧
      (∀ other, Arranges (· ≤ ·) (effectiveEnd ∘ ms.get) other → other = place) ∧
      firstToLast ms = List.ofFn (ms.get ∘ place) ∧
      (firstToLast (labelled ms)).map Prod.fst = List.ofFn place) ∧
    (∃ place, Arranges (· ≥ ·) (effectiveEnd ∘ ms.get) place ∧
      (∀ other, Arranges (· ≥ ·) (effectiveEnd ∘ ms.get) other → other = place) ∧
      lastToFirst ms = List.ofFn (ms.get ∘ place) ∧
      (lastToFirst (labelled ms)).map Prod.fst = List.ofFn place) ∧
    lastToFirst ms = (firstToLast ms.reverse).reverse := by
  refine ⟨?up, ?down, sortDownBy_eq_reverse effectiveEnd ms⟩
  case up =>
    have hup : Arranges (· ≤ ·) (effectiveEnd ∘ ms.get) _ := arranges_up_iff.2 rfl
    exact ⟨_, hup, fun _ => arranges_up_iff.1,
      hup.lists (stablySorted_sortBy _ _) (stablySorted_sortBy _ _)⟩
  case down =>
    have hdown : Arranges (· ≥ ·) (effectiveEnd ∘ ms.get) _ := arranges_down_iff.2 rfl
    exact ⟨_, hdown, fun _ => arranges_down_iff.1,
      hdown.lists (stablySorted_sortDownBy _ _) (stablySorted_sortDownBy _ _)⟩

/-- Two edits with one effective end stay as listed in both orders; the sweep, which goes through
the first order backwards, meets them the other way round. -/
example :
    let ms : List Mutation := [.insert (.point 4) "a", .delete (.span 2 4), .insert (.point 1) "b"]
    firstToLast ms = [.insert (.point 1) "b", .insert (.point 4) "a", .delete (.span 2 4)] ∧
      lastToFirst ms = [.insert (.point 4) "a", .delete (.span 2 4), .insert (.point 1) "b"] ∧
      sweepOrder ms = [.delete (.span 2 4), .insert (.point 4) "a", .insert (.point 1) "b"] :=
  ⟨rfl, rfl, rfl⟩

end Ranged

end EditWaves.Order
