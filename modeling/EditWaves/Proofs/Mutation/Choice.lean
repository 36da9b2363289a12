import Mathlib.Data.List.OfFn
import EditWaves.Proofs.Mutation.Sweep

/-!
# The one choice that the sweep can make

Which edits the sweep keeps can be said without the sweep.  A choice of positions in the
sweep order *separates* the edits if no two that it keeps overlap and if it leaves out only
edits that reach one kept before them.  Whether an edit is kept then depends on nothing but
the edits before it, so there is only one such choice (`Separates.unique`).

* `verdictAt` is what the sweep decides at a position, in terms of the edits kept before it.
* `separates_keeps`: these decisions separate the edits.
* `kept_eq_chosen`, `reports_verdicts`: what is kept and what is reported.
* `sweep_only_separation`: all of it together.
-/

namespace EditWaves.Order

variable {α : Type} [Ranged α]

/-! ## Choices by position -/

/-- The edits at the positions that a choice keeps, in their order. -/
def chosen (l : List α) (keep : Fin l.length → Bool) : List α :=
  ((List.finRange l.length).filter keep).map l.get

/-- A choice of edits, none of which overlap, that leaves out none without a reason. -/
structure Separates (l : List α) (keep : Fin l.length → Bool) : Prop where
  /-- Of two edits that are kept, the later one ends before the earlier one starts. -/
  apart : ∀ i j, i < j → keep i = true → keep j = true →
    effectiveEnd (l.get j) < start (l.get i)
  /-- An edit that is left out ends within one that is kept before it. -/
  covered : ∀ j, keep j = false → ∃ i < j, keep i = true ∧
    start (l.get i) ≤ effectiveEnd (l.get j) ∧ effectiveEnd (l.get j) ≤ effectiveEnd (l.get i)

/-- The position of the edit kept last before position `j`. -/
structure KeptLast {n : Nat} (keep : Fin n → Bool) (j i : Fin n) : Prop where
  lt : i < j
  kept : keep i = true
  last : ∀ k, i < k → k < j → keep k = false

/-- A report of the edit at position `j` with the start of the edit kept last before it. -/
structure Reports (l : List α) (keep : Fin l.length → Bool) (d : α × Nat) (j : Fin l.length) :
    Prop where
  edit : d.1 = l.get j
  keptStart : ∃ i, KeptLast keep j i ∧ d.2 = start (l.get i)

namespace Separates

variable {l : List α} {keep keep' : Fin l.length → Bool}

/-- Choices that agree up to an edit leave it out together. -/
theorem eq_false_of_eq_before (h : Separates l keep) (h' : Separates l keep') {j : Fin l.length}
    (hbefore : ∀ i < j, keep i = keep' i) (hj : keep' j = false) : keep j = false := by
  obtain ⟨i, hij, hi, hreach, -⟩ := h'.covered j hj
  by_contra hkept
  have hkeep : keep j = true := by simpa using hkept
  have hapart := h.apart i j hij (by rw [hbefore i hij]; exact hi) hkeep
  omega

/-- Only one choice separates the edits of a list. -/
theorem unique (h : Separates l keep) (h' : Separates l keep') : keep = keep' := by
  have hall : ∀ n (hn : n < l.length), keep ⟨n, hn⟩ = keep' ⟨n, hn⟩ := by
    intro n
    induction n using Nat.strong_induction_on with
    | _ n ih =>
      intro hn
      have hbefore : ∀ i < (⟨n, hn⟩ : Fin l.length), keep i = keep' i :=
        fun i hi => ih i hi i.isLt
      cases hk' : keep' ⟨n, hn⟩ with
      | false => exact h.eq_false_of_eq_before h' hbefore hk'
      | true =>
        by_contra hk
        have hfalse : keep ⟨n, hn⟩ = false := by simpa using hk
        have := h'.eq_false_of_eq_before h (fun i hi => (hbefore i hi).symm) hfalse
        rw [hk'] at this
        cases this
  funext j
  exact hall j j.isLt

end Separates

/-! ## The sweep, position by position -/

/-- What the sweep decides about an edit when the edit kept last starts at `bound`. -/
def verdict (bound : Option Nat) (a : α) : Verdict α :=
  match bound with
  | some keptStart => if keptStart ≤ effectiveEnd a then .dropped a keptStart else .kept a
  | none => .kept a

/-- The start of the edit kept last, after `before` have been kept too. -/
def boundAfter (bound : Option Nat) (before : List α) : Option Nat :=
  (before.getLast?.map start).or bound

theorem boundAfter_append (bound : Option Nat) (l₁ l₂ : List α) :
    boundAfter bound (l₁ ++ l₂) = boundAfter (boundAfter bound l₁) l₂ := by
  rw [boundAfter, boundAfter, boundAfter, List.getLast?_append]
  cases l₂.getLast? <;> rfl

theorem verdicts_cons (bound : Option Nat) (a : α) (l : List α) :
    verdicts bound (a :: l) = verdict bound a ::
      verdicts (boundAfter bound (verdict bound a).kept?.toList) l := by
  cases bound with
  | none => rfl
  | some keptStart =>
    rw [verdicts, verdict]
    split <;> rfl

theorem kept_cons (bound : Option Nat) (a : α) (l : List α) :
    kept bound (a :: l) = (verdict bound a).kept?.toList ++
      kept (boundAfter bound (verdict bound a).kept?.toList) l := by
  rw [kept, verdicts_cons, List.filterMap_cons]
  cases (verdict bound a).kept? <;> rfl

/-- The decisions on a list go on with the start of the edit kept last. -/
theorem verdicts_append (bound : Option Nat) (l₁ l₂ : List α) :
    verdicts bound (l₁ ++ l₂)
      = verdicts bound l₁ ++ verdicts (boundAfter bound (kept bound l₁)) l₂ := by
  induction l₁ generalizing bound with
  | nil => cases bound <;> rfl
  | cons a l₁ ih =>
    rw [List.cons_append, verdicts_cons, ih, kept_cons, boundAfter_append, verdicts_cons,
      List.cons_append]

theorem length_verdicts (bound : Option Nat) (l : List α) :
    (verdicts bound l).length = l.length := by
  induction l generalizing bound with
  | nil => cases bound <;> rfl
  | cons a l ih => rw [verdicts_cons, List.length_cons, List.length_cons, ih]

/-- What the sweep decides at a position, which depends on the edits kept before it. -/
def verdictAt (l : List α) (j : Fin l.length) : Verdict α :=
  verdict (boundAfter none (kept none (l.take j))) (l.get j)

theorem verdicts_eq_map (l : List α) :
    verdicts none l = (List.finRange l.length).map (verdictAt l) := by
  refine List.ext_getElem ?_ ?_
  · rw [length_verdicts, List.length_map, List.length_finRange]
  · intro n hn hn'
    have hlt : n < l.length := by rwa [length_verdicts] at hn
    obtain ⟨rest, hsplit⟩ : ∃ rest, verdicts none l = verdicts none (l.take n) ++
        verdictAt l ⟨n, hlt⟩ :: rest := by
      conv => enter [1, rest, 1]; rw [← List.take_append_drop n l, List.drop_eq_getElem_cons hlt]
      rw [verdicts_append, verdicts_cons]
      exact ⟨_, rfl⟩
    have hlen : (verdicts none (l.take n)).length = n := by
      rw [length_verdicts, List.length_take]
      omega
    rw [List.getElem_map, List.getElem_finRange, List.getElem_of_eq hsplit,
      List.getElem_append_right (by omega)]
    simp only [hlen, Nat.sub_self, List.getElem_cons_zero]
    rfl

/-- Whether the sweep keeps the edit at a position. -/
def keeps (l : List α) (j : Fin l.length) : Bool := (verdictAt l j).kept?.isSome

/-- A decision keeps the edit, or drops it because it reaches the start of the edit kept
last. -/
theorem verdict_cases (bound : Option Nat) (a : α) :
    verdict bound a = .kept a ∨
      ∃ keptStart, bound = some keptStart ∧ keptStart ≤ effectiveEnd a ∧
        verdict bound a = .dropped a keptStart := by
  cases bound with
  | none => exact .inl rfl
  | some keptStart =>
    rw [verdict]
    split
    next hle => exact .inr ⟨keptStart, rfl, hle, rfl⟩
    next => exact .inl rfl

variable (l : List α)

theorem kept?_verdictAt (j : Fin l.length) :
    (verdictAt l j).kept? = if keeps l j then some (l.get j) else none := by
  rw [keeps]
  rcases verdict_cases (boundAfter none (kept none (l.take j))) (l.get j) with h | ⟨b, -, -, h⟩
  · rw [verdictAt, h]; rfl
  · rw [verdictAt, h]; rfl

/-- Of the first edits those are kept that the choice keeps. -/
theorem kept_take {n : Nat} (hn : n ≤ l.length) : kept none (l.take n)
    = (((List.finRange l.length).take n).filter (keeps l)).map l.get := by
  have hlen : (verdicts none (l.take n)).length = n := by
    rw [length_verdicts, List.length_take]
    omega
  have hverdicts : verdicts none (l.take n) = (verdicts none l).take n := by
    conv_rhs => rw [← List.take_append_drop n l, verdicts_append, List.take_left' hlen]
  rw [kept, hverdicts, verdicts_eq_map, ← List.map_take, List.filterMap_map,
    ← List.filterMap_eq_filter, List.map_filterMap]
  refine List.filterMap_congr ?_
  intro j _
  rw [Function.comp, kept?_verdictAt]
  cases h : keeps l j <;> simp [Option.guard, h]

theorem kept_eq_chosen : kept none l = chosen l (keeps l) := by
  have hwhole := kept_take l (Nat.le_refl l.length)
  rwa [List.take_length, List.take_of_length_le (by rw [List.length_finRange])] at hwhole

/-! ## The choice of the sweep -/

theorem apart_keeps {i j : Fin l.length} (hij : i < j) (hi : keeps l i = true)
    (hj : keeps l j = true) : effectiveEnd (l.get j) < start (l.get i) := by
  have hkept := pairwise_kept none l
  rw [kept_eq_chosen, chosen, List.pairwise_map, List.pairwise_filter, List.finRange,
    List.pairwise_ofFn] at hkept
  exact hkept hij hi hj

/-- Positions before another one. -/
theorem mem_take_finRange {n : Nat} {i j : Fin n} : i ∈ (List.finRange n).take j ↔ i < j := by
  rw [List.mem_take_iff_getElem]
  constructor
  · rintro ⟨k, hk, rfl⟩
    rw [List.getElem_finRange, Fin.lt_def]
    exact (Nat.lt_min.1 hk).1
  · intro hij
    refine ⟨i, ?_, ?_⟩
    · rw [List.length_finRange]
      exact Nat.lt_min.2 ⟨hij, i.isLt⟩
    · rw [List.getElem_finRange]
      rfl

/-- The edit kept last before a position. -/
theorem exists_keptLast {j : Fin l.length} {last : α}
    (hlast : (kept none (l.take j)).getLast? = some last) :
    ∃ i, KeptLast (keeps l) j i ∧ last = l.get i := by
  rw [kept_take l (Nat.le_of_lt j.isLt), List.getLast?_map, List.getLast?_filter] at hlast
  obtain ⟨i, hfound, rfl⟩ := Option.map_eq_some_iff.1 hlast
  obtain ⟨hi, behind, before, hsplit, hnone⟩ := List.find?_eq_some_iff_append.1 hfound
  have hij : i < j := by
    rw [← mem_take_finRange, ← List.mem_reverse, hsplit]
    exact List.mem_append_right _ List.mem_cons_self
  refine ⟨i, ⟨hij, hi, ?_⟩, rfl⟩
  intro k hik hkj
  -- A position after `i` comes before `i` in the reversed list.
  have hk : k ∈ behind ++ i :: before := by
    rw [← hsplit, List.mem_reverse, mem_take_finRange]
    exact hkj
  have hdown : (behind ++ i :: before).Pairwise (fun a b => b < a) := by
    rw [← hsplit, List.pairwise_reverse]
    exact (List.pairwise_lt_finRange _).sublist (List.take_sublist _ _)
  rcases List.mem_append.1 hk with hk | hk
  · simpa using hnone k hk
  · rcases List.mem_cons.1 hk with rfl | hk
    · exact absurd hik (Fin.lt_irrefl _)
    · have hki := (List.pairwise_cons.1 (List.pairwise_append.1 hdown).2.1).1 k hk
      exact absurd hik (Fin.not_lt.2 (Fin.le_of_lt hki))

/-- A dropped edit reaches the start of the edit kept last before it, and is reported with
it. -/
theorem verdictAt_dropped {j : Fin l.length} (hj : keeps l j = false) :
    ∃ i, KeptLast (keeps l) j i ∧ start (l.get i) ≤ effectiveEnd (l.get j) ∧
      verdictAt l j = .dropped (l.get j) (start (l.get i)) := by
  rcases verdict_cases (boundAfter none (kept none (l.take j))) (l.get j) with
    hkept | ⟨b, hb, hle, hdropped⟩
  · rw [keeps, verdictAt, hkept] at hj
    cases hj
  · rw [boundAfter, Option.or_none] at hb
    obtain ⟨last, hlast, rfl⟩ := Option.map_eq_some_iff.1 hb
    obtain ⟨i, hi, rfl⟩ := exists_keptLast l hlast
    exact ⟨i, hi, hle, hdropped⟩

/-- What the sweep keeps of a descending list separates its edits. -/
theorem separates_keeps (hdown : l.Pairwise (fun a b => effectiveEnd b ≤ effectiveEnd a)) :
    Separates l (keeps l) where
  apart _ _ hij hi hj := apart_keeps l hij hi hj
  covered j hj := by
    obtain ⟨i, hi, hle, -⟩ := verdictAt_dropped l hj
    exact ⟨i, hi.lt, hi.kept, hle, List.pairwise_iff_getElem.1 hdown i j i.isLt j.isLt hi.lt⟩

/-- Pointwise related parts of a list, one made by a function that may fail and one by a
test. -/
theorem forall₂_filterMap_filter {β γ : Type} {R : γ → β → Prop} {f : β → Option γ}
    {p : β → Bool} (hsome : ∀ b, p b = true → ∃ c, f b = some c ∧ R c b)
    (hnone : ∀ b, p b = false → f b = none) (bs : List β) :
    List.Forall₂ R (bs.filterMap f) (bs.filter p) := by
  induction bs with
  | nil => exact .nil
  | cons b bs ih =>
    cases hp : p b with
    | false =>
      rw [List.filterMap_cons_none (hnone b hp), List.filter_cons_of_neg (by rw [hp]; decide)]
      exact ih
    | true =>
      obtain ⟨c, hc, hR⟩ := hsome b hp
      rw [List.filterMap_cons_some hc, List.filter_cons_of_pos hp]
      exact .cons hR ih

/-- The edits that are left out are reported, each once and in order. -/
theorem reports_verdicts : List.Forall₂ (Reports l (keeps l))
    ((verdicts none l).filterMap Verdict.dropped?)
    ((List.finRange l.length).filter (fun j => !keeps l j)) := by
  rw [verdicts_eq_map, List.filterMap_map]
  refine forall₂_filterMap_filter ?_ ?_ _
  · intro j hj
    obtain ⟨i, hi, -, hdropped⟩ := verdictAt_dropped l (by simpa using hj)
    refine ⟨(l.get j, start (l.get i)), ?_, rfl, i, hi, rfl⟩
    rw [Function.comp, hdropped]
    rfl
  · intro j hj
    have hkept := kept?_verdictAt l j
    rw [if_pos (by simpa using hj)] at hkept
    rw [Function.comp]
    cases hv : verdictAt l j with
    | kept a => rfl
    | dropped a b => rw [hv] at hkept; cases hkept

/-- Of any list the sweep keeps a part, in the reverse of the stable order by ascending
effective end.  In this order one choice and no other separates the edits; the sweep keeps
what it keeps, and reports each edit that it leaves out once, in order and with the start of
the edit kept last before it.  Edits that are strictly apart are all kept and go down. -/
theorem sweep_only_separation (ms : List α) :
    StablySorted (· ≤ ·) effectiveEnd ms (sweepOrder ms).reverse ∧
    (∃ keep : Fin (sweepOrder ms).length → Bool,
      Separates (sweepOrder ms) keep ∧
      (∀ keep', Separates (sweepOrder ms) keep' → keep' = keep) ∧
      sweep ms = chosen (sweepOrder ms) keep ∧
      List.Forall₂ (Reports (sweepOrder ms) keep) (drops ms)
        ((List.finRange (sweepOrder ms).length).filter (fun j => !keep j))) ∧
    (sweep ms).Subperm ms ∧ (sweep ms).Pairwise (fun a b => effectiveEnd b < start a) ∧
    (ms.Pairwise StrictlyApart → sweep ms = sweepOrder ms ∧ (sweep ms).Perm ms ∧ drops ms = [] ∧
      (sweep ms).Pairwise (fun a b => effectiveEnd b < effectiveEnd a)) := by
  have hseparates : Separates (sweepOrder ms) (keeps (sweepOrder ms)) :=
    separates_keeps _ (pairwise_sweepOrder ms)
  refine ⟨?_, ⟨keeps (sweepOrder ms), hseparates, fun _ h => h.unique hseparates,
    kept_eq_chosen _, reports_verdicts _⟩, ?_, pairwise_sweep ms, ?_⟩
  · rw [sweepOrder, List.reverse_reverse]
    exact stablySorted_sortBy effectiveEnd ms
  · exact (sweep_sublist ms).subperm.trans (perm_sweepOrder ms).subperm
  · intro hapart
    have hwhole := sweep_of_strictlyApart hapart
    refine ⟨hwhole, ?_, drops_of_strictlyApart hapart, ?_⟩
    · rw [hwhole]
      exact perm_sweepOrder ms
    · refine (pairwise_sweep ms).imp ?_
      intro a b hba
      have ha := start_le_effectiveEnd a
      omega

/-- A range whose end precedes its begin between two others. -/
theorem sweep_only_separation_three :
    let ms : List Mutation := [.delete (.span 0 2), .swap ⟨8, some 3⟩ "x", .insert (.point 5) "y"]
    ms.Pairwise StrictlyApart ∧
      sweep ms = [.swap ⟨8, some 3⟩ "x", .insert (.point 5) "y", .delete (.span 0 2)] ∧
      (sweep ms).Perm ms ∧ drops ms = [] := by
  intro ms
  have hapart : ms.Pairwise StrictlyApart := by decide
  obtain ⟨hwhole, hperm, hdrops, -⟩ := (sweep_only_separation ms).2.2.2.2 hapart
  exact ⟨hapart, hwhole.trans rfl, hperm, hdrops⟩

end EditWaves.Order
