import EditWaves.Proofs.Pattern.Matches
import EditWaves.Proofs.Pattern.WellFormed
import Mathlib.Data.Finset.Card
import Mathlib.Data.Finset.Range

/-!
# Searching without missing a match

No pair of instruction and position is tried twice, and the number of steps is limited.  Neither
loses a match: a search that finds nothing has tried everything that steps lead to.

* `Explored`: the invariant of a run.  What has been tried has not matched, and each step from it
  leads to what has been tried or is waiting.
* `explored_run`: the steps of a run are enough, since each one tries a new pair or takes a thread
  away.
* `find?_of_matches`: if there is a match, then the leftmost one is found.
* `FoundFrom.covers`: no match begins outside the successive matches of a text.
-/

namespace EditWaves.Pattern

/-! ## What a run has tried -/

variable {p : Program} {text : Array Char} {t t' u : Thread}

/-- A thread at an instruction of the program and at a position of the text. -/
structure Thread.Valid (p : Program) (text : Array Char) (t : Thread) : Prop where
  inst_lt : t.inst < p.code.size
  pos_le : t.pos ≤ text.size

theorem Step.target (h : Step p text t t') :
    ∃ i, p.code[t.inst]? = some i ∧ t'.inst ∈ i.targets := by
  cases h with
  | take hinst | check hinst | save hinst | first hinst | second hinst =>
    exact ⟨_, hinst, by simp [Inst.targets]⟩

theorem Step.valid (hp : p.WellFormed) (h : Step p text t t') (ht : t.pos ≤ text.size) :
    t'.Valid p text := by
  obtain ⟨i, hinst, htarget⟩ := h.target
  exact ⟨hp.linked i (Array.mem_of_getElem? hinst) _ htarget, h.pos_le_size ht⟩

/-- Steps depend on instruction and position only. -/
theorem Step.of_same_place (h : Step p text t t') (hinst : u.inst = t.inst) (hpos : u.pos = t.pos) :
    ∃ u', Step p text u u' ∧ u'.inst = t'.inst ∧ u'.pos = t'.pos := by
  cases h with
  | take hi hchar hset =>
    exact ⟨_, .take (hinst ▸ hi) (hpos ▸ hchar) hset, rfl, by rw [hpos]⟩
  | check hi hlook => exact ⟨_, .check (hinst ▸ hi) (hpos ▸ hlook), rfl, hpos⟩
  | save hi => exact ⟨_, .save (hinst ▸ hi), rfl, hpos⟩
  | first hi => exact ⟨_, .first (hinst ▸ hi), rfl, hpos⟩
  | second hi => exact ⟨_, .second (hinst ▸ hi), rfl, hpos⟩

namespace Program

theorem pair_eq (hinst : u.inst = t.inst) (hpos : u.pos = t.pos) : pair text u = pair text t := by
  rw [pair, hinst, hpos, pair]

/-- A pair tells instruction and position. -/
theorem eq_of_pair (ht : t.pos ≤ text.size) (hu : u.pos ≤ text.size)
    (h : pair text u = pair text t) : u.inst = t.inst ∧ u.pos = t.pos := by
  have hdiv : ∀ {v : Thread}, v.pos ≤ text.size → pair text v / (text.size + 1) = v.inst := by
    intro v hv
    rw [pair, Nat.mul_comm, Nat.mul_add_div (Nat.succ_pos _), Nat.div_eq_of_lt (by omega),
      Nat.add_zero]
  have hinst : u.inst = t.inst := by rw [← hdiv hu, h, hdiv ht]
  rw [pair, pair, hinst] at h
  exact ⟨hinst, by omega⟩

/-- What has been tried has not matched, and what it goes on as has been tried or is waiting. -/
def Explored (p : Program) (text : Array Char) (threads : List Thread) (seen : Std.HashSet Nat) :
    Prop :=
  ∀ t : Thread, t.Valid p text → seen.contains (pair text t) = true →
    p.code[t.inst]? ≠ some .done ∧ ∀ t', Step p text t t' →
      seen.contains (pair text t') = true ∨ ∃ u ∈ threads, pair text u = pair text t'

variable {others threads : List Thread} {seen : Std.HashSet Nat}

theorem explored_empty : Explored p text threads Std.HashSet.emptyWithCapacity := by
  intro t _ h
  simp at h

/-- A thread that has been tried need not wait. -/
theorem Explored.skip (h : Explored p text (t :: others) seen)
    (hseen : seen.contains (pair text t) = true) : Explored p text others seen := by
  intro u hu hcontains
  obtain ⟨hdone, hsteps⟩ := h u hu hcontains
  refine ⟨hdone, fun u' hu' => ?_⟩
  obtain hseen' | ⟨v, hv, hpair⟩ := hsteps u' hu'
  · exact .inl hseen'
  · obtain rfl | hv := List.mem_cons.1 hv
    · exact .inl (hpair ▸ hseen)
    · exact .inr ⟨v, hv, hpair⟩

/-- A thread that is tried leaves those with which it goes on. -/
theorem Explored.visit (h : Explored p text (t :: others) seen) (ht : t.Valid p text)
    (hdone : p.code[t.inst]? ≠ some .done) :
    Explored p text (p.successors text t ++ others) (seen.insert (pair text t)) := by
  intro u hu hcontains
  rw [Std.HashSet.contains_insert, Bool.or_eq_true, beq_iff_eq] at hcontains
  obtain hpair | hcontains := hcontains
  · obtain ⟨hinst, hpos⟩ := eq_of_pair ht.pos_le hu.pos_le hpair.symm
    refine ⟨hinst ▸ hdone, fun u' hu' => .inr ?_⟩
    obtain ⟨t', ht', hinst', hpos'⟩ := hu'.of_same_place hinst.symm hpos.symm
    exact ⟨t', List.mem_append_left _ (mem_successors_iff.2 ht'), pair_eq hinst' hpos'⟩
  · obtain ⟨hdone', hsteps⟩ := h u hu hcontains
    refine ⟨hdone', fun u' hu' => ?_⟩
    obtain hseen' | ⟨v, hv, hpair⟩ := hsteps u' hu'
    · exact .inl (by rw [Std.HashSet.contains_insert, hseen', Bool.or_true])
    · obtain rfl | hv := List.mem_cons.1 hv
      · exact .inl (by rw [Std.HashSet.contains_insert, hpair, beq_self_eq_true, Bool.true_or])
      · exact .inr ⟨v, List.mem_append_right _ hv, hpair⟩

/-- When nothing is waiting, steps do not lead out of what has been tried. -/
theorem Explored.closed (h : Explored p text [] seen) (hp : p.WellFormed) (ht : t.Valid p text)
    (hseen : seen.contains (pair text t) = true) (hsteps : Steps p text t t') :
    p.code[t'.inst]? ≠ some .done := by
  suffices hall : t'.Valid p text ∧ seen.contains (pair text t') = true from
    (h t' hall.1 hall.2).1
  induction hsteps with
  | refl => exact ⟨ht, hseen⟩
  | tail _ hstep ih =>
    obtain ⟨hvalid, hcontains⟩ := ih
    refine ⟨hstep.valid hp hvalid.pos_le, ?_⟩
    obtain hseen' | ⟨_, hnothing, _⟩ := (h _ hvalid hcontains).2 _ hstep
    · exact hseen'
    · cases hnothing

/-! ## The steps of a run -/

/-- The pairs that have not been tried. -/
def untried (p : Program) (text : Array Char) (seen : Std.HashSet Nat) : Finset Nat :=
  (Finset.range (p.code.size * (text.size + 1))).filter (fun pair => seen.contains pair = false)

theorem card_untried_le (p : Program) (text : Array Char) (seen : Std.HashSet Nat) :
    (untried p text seen).card ≤ p.code.size * (text.size + 1) :=
  (Finset.card_filter_le _ _).trans (Finset.card_range _).le

theorem pair_lt (ht : t.Valid p text) : pair text t < p.code.size * (text.size + 1) := by
  have hinst := ht.inst_lt
  have hpos := ht.pos_le
  calc pair text t < t.inst * (text.size + 1) + (text.size + 1) := by rw [pair]; omega
    _ = (t.inst + 1) * (text.size + 1) := by rw [Nat.succ_mul]
    _ ≤ p.code.size * (text.size + 1) := Nat.mul_le_mul_right _ hinst

/-- Trying a pair leaves one less. -/
theorem card_untried_insert (ht : t.Valid p text) (hseen : seen.contains (pair text t) = false) :
    (untried p text (seen.insert (pair text t))).card + 1 = (untried p text seen).card := by
  have hmem : pair text t ∈ untried p text seen :=
    Finset.mem_filter.2 ⟨Finset.mem_range.2 (pair_lt ht), hseen⟩
  have herase : untried p text (seen.insert (pair text t))
      = (untried p text seen).erase (pair text t) := by
    ext k
    simp only [untried, Finset.mem_filter, Finset.mem_erase, Std.HashSet.contains_insert,
      Bool.or_eq_false_iff, beq_eq_false_iff_ne]
    tauto
  rw [herase, Finset.card_erase_add_one hmem]

theorem length_successors_le (p : Program) (text : Array Char) (t : Thread) :
    (p.successors text t).length ≤ 2 := by
  unfold successors
  split
  · split
    · split <;> simp
    · simp
  · split <;> simp
  all_goals simp

/-- A run that finds nothing has tried its threads and everything that they lead to.  Its steps are
enough: each one takes a thread away, or tries a pair and adds at most one thread to those that
wait. -/
theorem explored_run (hp : p.WellFormed) {fuel : Nat} (hthreads : ∀ t ∈ threads, t.Valid p text)
    (hfuel : 2 * (untried p text seen).card + threads.length < fuel)
    (h : Explored p text threads seen) (hnone : (p.run text fuel threads seen).1 = none) :
    Explored p text [] (p.run text fuel threads seen).2 ∧
      (∀ k, seen.contains k = true → (p.run text fuel threads seen).2.contains k = true) ∧
      ∀ t ∈ threads, (p.run text fuel threads seen).2.contains (pair text t) = true := by
  induction fuel generalizing threads seen with
  | zero => omega
  | succ fuel ih =>
    cases threads with
    | nil => exact ⟨h, fun k hk => hk, List.forall_mem_nil _⟩
    | cons t others =>
      obtain ⟨ht, hothers⟩ := List.forall_mem_cons.1 hthreads
      rw [List.length_cons] at hfuel
      cases hseen : seen.contains (pair text t) with
      | true =>
        rw [run_seen hseen] at hnone ⊢
        obtain ⟨hend, hkeeps, htried⟩ := ih hothers (by omega) (h.skip hseen) hnone
        exact ⟨hend, hkeeps, List.forall_mem_cons.2 ⟨hkeeps _ hseen, htried⟩⟩
      | false =>
        by_cases hdone : p.code[t.inst]? = some .done
        · rw [run_done hseen hdone] at hnone
          cases hnone
        · rw [run_step hseen hdone] at hnone ⊢
          have hcard := card_untried_insert ht hseen
          have hlength := p.length_successors_le text t
          have hvalid : ∀ u ∈ p.successors text t ++ others, u.Valid p text := by
            intro u hu
            obtain hu | hu := List.mem_append.1 hu
            · exact (mem_successors_iff.1 hu).valid hp ht.pos_le
            · exact hothers u hu
          have hwait : 2 * (untried p text (seen.insert (pair text t))).card
              + (p.successors text t ++ others).length < fuel := by
            rw [List.length_append]
            omega
          obtain ⟨hend, hkeeps, htried⟩ := ih hvalid hwait (h.visit ht hdone) hnone
          refine ⟨hend, fun k hk => hkeeps k ?_, List.forall_mem_cons.2 ⟨hkeeps _ ?_, ?_⟩⟩
          · rw [Std.HashSet.contains_insert, hk, Bool.or_true]
          · rw [Std.HashSet.contains_insert, beq_self_eq_true, Bool.true_or]
          · exact fun u hu => htried u (List.mem_append_right _ hu)

/-! ## The leftmost match -/

variable {m : Match} {start : Nat}

/-- Where nothing is found there is no match, and what has been tried is kept for the next start. -/
theorem matchAt_none (hp : p.WellFormed) (hstart : start ≤ text.size)
    (h : Explored p text [] seen) (hnone : (p.matchAt text seen start).1 = none) :
    Explored p text [] (p.matchAt text seen start).2 ∧ ∀ m, Matches p text m → m.start ≠ start := by
  have hvalid : Thread.Valid p text ⟨p.entry, start, []⟩ := ⟨hp.entry_lt, hstart⟩
  have hwaiting : Explored p text [⟨p.entry, start, []⟩] seen := fun t ht hseen =>
    ⟨(h t ht hseen).1, fun t' ht' => ((h t ht hseen).2 t' ht').imp_right (by simp)⟩
  have hfuel : 2 * (untried p text seen).card + 1 < p.fuelFor text := by
    have hcard := card_untried_le p text seen
    rw [fuelFor, Nat.mul_assoc]
    omega
  rw [matchAt] at hnone ⊢
  rcases hrun : p.run text (p.fuelFor text) [⟨p.entry, start, []⟩] seen with ⟨_ | t, seen'⟩
  · have hend := explored_run hp (by simpa using hvalid) hfuel hwaiting (congrArg Prod.fst hrun)
    rw [hrun] at hend
    obtain ⟨hexplored, -, htried⟩ := hend
    refine ⟨hexplored, ?_⟩
    rintro m ⟨-, t, hsteps, hdone, -⟩ rfl
    exact hexplored.closed hp hvalid (htried _ List.mem_cons_self) hsteps hdone
  · simp only [hrun] at hnone
    cases hnone

theorem search_of_matches {count : Nat} (hp : p.WellFormed) (h : Explored p text [] seen)
    (hm : Matches p text m) (hle : start ≤ m.start) (hlt : m.start < start + count) :
    ∃ found, p.search text seen start count = some found ∧ found.start ≤ m.start := by
  induction count generalizing seen start with
  | zero => omega
  | succ count ih =>
    have hstart : start ≤ text.size := hle.trans hm.1
    rw [search]
    rcases hat : p.matchAt text seen start with ⟨_ | found, seen'⟩
    · have hnone := matchAt_none hp hstart h (congrArg Prod.fst hat)
      rw [hat] at hnone
      obtain ⟨hexplored, hstarts⟩ := hnone
      have hne := hstarts m hm
      exact ih hexplored (by omega) (by omega)
    · obtain ⟨-, hfound⟩ := matches_matchAt hstart (congrArg Prod.fst hat)
      exact ⟨found, rfl, hfound.trans_le hle⟩

/-- If there is a match from a position on, then one is found that starts no later. -/
theorem find?_of_matches (hp : p.WellFormed) (hm : Matches p text m) (hle : start ≤ m.start) :
    ∃ found, p.find? text start = some found ∧ found.start ≤ m.start := by
  have hsize := hm.1
  exact search_of_matches hp explored_empty hm hle (by omega)

/-- If there is a match from a position on that does not start where the one before has ended, then
the next match starts no later. -/
theorem findNext_of_matches (hp : p.WellFormed) (hm : Matches p text m) {last : Option Nat}
    (hle : start ≤ m.start) (hlast : last ≠ some m.start) :
    ∃ next, p.findNext text start last = some next ∧ next.start ≤ m.start := by
  obtain ⟨found, hfind, hfound⟩ := find?_of_matches hp hm hle
  rw [findNext]
  simp only [hfind]
  split
  · next hempty =>
    rw [Bool.and_eq_true, decide_eq_true_eq, decide_eq_true_eq] at hempty
    have hafter : start ≤ found.start := (matches_find? hfind).2
    have hne : found.start ≠ m.start := by
      intro heq
      exact hlast (by rw [hempty.2, ← hempty.1, heq])
    exact find?_of_matches hp hm (by omega)
  · exact ⟨found, rfl, hfound⟩

end Program

/-- No match begins outside successive matches, unless where the match before them has ended. -/
theorem FoundFrom.covers {start : Nat} {last : Option Nat} {ms : List Match} {m : Match}
    (hp : p.WellFormed) (h : FoundFrom p text start last ms) (hm : Matches p text m)
    (hle : start ≤ m.start) (hlast : last ≠ some m.start) :
    ∃ found ∈ ms, found.start ≤ m.start ∧ m.start ≤ found.stop := by
  induction h with
  | nil hnone =>
    obtain ⟨next, hnext, -⟩ := Program.findNext_of_matches hp hm hle hlast
    rw [hnone] at hnext
    cases hnext
  | @cons start last found rest hfound hrest ih =>
    obtain ⟨next, hnext, hstart⟩ := Program.findNext_of_matches hp hm hle hlast
    obtain rfl := Option.some.inj (hfound.symm.trans hnext)
    by_cases hstop : m.start ≤ found.stop
    · exact ⟨found, List.mem_cons_self, hstart, hstop⟩
    · have hne : some found.stop ≠ some m.start := fun heq => by
        have := Option.some.inj heq
        omega
      obtain ⟨other, hother, hcovers⟩ := ih (by omega) hne
      exact ⟨other, List.mem_cons_of_mem _ hother, hcovers⟩

end EditWaves.Pattern
