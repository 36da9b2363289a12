import EditWaves.Pattern.Match
import Mathlib.Logic.Relation

/-!
# Successive matches

A program means steps from thread to thread (`Step`), and a match is where steps from its entry
lead to its end (`Matches`).  The search finds nothing else, and its matches follow one another.

* `matches_find?`: what is found is a match, at the position or after it, and lies in the text.
* `FoundFrom`: matches each of which is the first one after the one before, up to where there is
  none.  `foundFrom_findAll`: the matches of a text are such, none of them is missed.
* `Successive`: matches that ascend and do not overlap, as those of a text do.
-/

namespace EditWaves.Pattern

/-! ## Steps -/

/-- A thread goes on as another one. -/
inductive Step (p : Program) (text : Array Char) (t : Thread) : Thread → Prop where
  | take {s : Text.CharSet} {next : Nat} {c : Char} (hinst : p.code[t.inst]? = some (.take s next))
      (hchar : text[t.pos]? = some c) (hset : s.contains c = true) :
      Step p text t ⟨next, t.pos + 1, t.saves⟩
  | check {l : Look} {next : Nat} (hinst : p.code[t.inst]? = some (.check l next))
      (hlook : l.holds text t.pos = true) : Step p text t { t with inst := next }
  | save {slot next : Nat} (hinst : p.code[t.inst]? = some (.save slot next)) :
      Step p text t ⟨next, t.pos, (slot, t.pos) :: t.saves⟩
  | first {first second : Nat} (hinst : p.code[t.inst]? = some (.fork first second)) :
      Step p text t { t with inst := first }
  | second {first second : Nat} (hinst : p.code[t.inst]? = some (.fork first second)) :
      Step p text t { t with inst := second }

/-- A thread goes on, in any number of steps, as another one. -/
abbrev Steps (p : Program) (text : Array Char) : Thread → Thread → Prop :=
  Relation.ReflTransGen (Step p text)

/-- The program of a pattern matches in a text: from the entry at the start of the match, steps
lead to its end, and on the way the groups were saved. -/
def Matches (p : Program) (text : Array Char) (m : Match) : Prop :=
  m.start ≤ text.size ∧ ∃ t, Steps p text ⟨p.entry, m.start, []⟩ t ∧
    p.code[t.inst]? = some .done ∧ m = p.toMatch m.start t

variable {p : Program} {text : Array Char} {t t' : Thread}

/-- A step takes at most the next character. -/
theorem Step.pos_le (h : Step p text t t') : t.pos ≤ t'.pos := by
  cases h with
  | take => exact Nat.le_succ _
  | check | save | first | second => exact Nat.le_refl _

theorem Step.pos_le_size (h : Step p text t t') (ht : t.pos ≤ text.size) :
    t'.pos ≤ text.size := by
  cases h with
  | take hinst hchar hset => exact (Array.getElem?_eq_some_iff.1 hchar).1
  | check | save | first | second => exact ht

theorem Steps.pos_le (h : Steps p text t t') : t.pos ≤ t'.pos := by
  induction h with
  | refl => exact Nat.le_refl _
  | tail _ hstep ih => exact Nat.le_trans ih hstep.pos_le

theorem Steps.pos_le_size (h : Steps p text t t') (ht : t.pos ≤ text.size) :
    t'.pos ≤ text.size := by
  induction h with
  | refl => exact ht
  | tail _ hstep ih => exact hstep.pos_le_size ih

theorem Matches.start_le_stop {m : Match} (h : Matches p text m) : m.start ≤ m.stop := by
  obtain ⟨-, t, hsteps, -, hm⟩ := h
  rw [hm]
  exact hsteps.pos_le

theorem Matches.stop_le_size {m : Match} (h : Matches p text m) : m.stop ≤ text.size := by
  obtain ⟨hstart, t, hsteps, -, hm⟩ := h
  rw [hm]
  exact hsteps.pos_le_size hstart

/-! ## Runs -/

namespace Program

/-- The threads with which a thread goes on, the preferred first. -/
def successors (p : Program) (text : Array Char) (t : Thread) : List Thread :=
  match p.code[t.inst]? with
  | some (.take s next) =>
    match text[t.pos]? with
    | some c => if s.contains c then [⟨next, t.pos + 1, t.saves⟩] else []
    | none => []
  | some (.check l next) => if l.holds text t.pos then [{ t with inst := next }] else []
  | some (.save slot next) => [⟨next, t.pos, (slot, t.pos) :: t.saves⟩]
  | some (.fork first second) => [{ t with inst := first }, { t with inst := second }]
  | some .done => []
  | none => []

/-- The threads with which a thread goes on are those that a step leads to. -/
theorem mem_successors_iff : t' ∈ p.successors text t ↔ Step p text t t' := by
  constructor
  · intro h
    unfold successors at h
    split at h
    case h_1 s next hinst =>
      cases hchar : text[t.pos]? with
      | none => simp [hchar] at h
      | some c =>
        simp only [hchar, List.mem_ite_nil_right, List.mem_singleton] at h
        obtain ⟨hset, rfl⟩ := h
        exact .take hinst hchar hset
    case h_2 l next hinst =>
      simp only [List.mem_ite_nil_right, List.mem_singleton] at h
      obtain ⟨hlook, rfl⟩ := h
      exact .check hinst hlook
    case h_3 slot next hinst =>
      obtain rfl := List.mem_singleton.1 h
      exact .save hinst
    case h_4 first second hinst =>
      simp only [List.mem_cons, List.not_mem_nil, or_false] at h
      obtain rfl | rfl := h
      · exact .first hinst
      · exact .second hinst
    case h_5 => cases h
    case h_6 => cases h
  · intro h
    cases h with
    | take hinst hchar hset => simp [successors, hinst, hchar, hset]
    | check hinst hlook => simp [successors, hinst, hlook]
    | save hinst | first hinst | second hinst => simp [successors, hinst]

/-- The number of an instruction and a position, as a pair that has been tried. -/
def pair (text : Array Char) (t : Thread) : Nat := t.inst * (text.size + 1) + t.pos

variable {fuel : Nat} {others threads : List Thread} {seen : Std.HashSet Nat}

theorem run_seen (h : seen.contains (pair text t) = true) :
    p.run text (fuel + 1) (t :: others) seen = p.run text fuel others seen := by
  rw [pair] at h
  simp only [run, h, if_true]

theorem run_done (h : seen.contains (pair text t) = false) (hdone : p.code[t.inst]? = some .done) :
    p.run text (fuel + 1) (t :: others) seen = (some t, seen.insert (pair text t)) := by
  rw [pair] at h
  simp [run, h, hdone, pair]

/-- A thread that has not matched is replaced by those with which it goes on. -/
theorem run_step (h : seen.contains (pair text t) = false)
    (hdone : p.code[t.inst]? ≠ some .done) :
    p.run text (fuel + 1) (t :: others) seen
      = p.run text fuel (p.successors text t ++ others) (seen.insert (pair text t)) := by
  rw [pair] at h
  rw [run, successors, pair]
  simp only [h]
  rcases hinst : p.code[t.inst]? with _ | (⟨s, next⟩ | ⟨l, next⟩ | ⟨slot, next⟩ | ⟨a, b⟩ | _)
  · rfl
  · cases hchar : text[t.pos]? with
    | none => rfl
    | some c => cases hset : s.contains c <;> simp [hset]
  · cases hlook : l.holds text t.pos <;> simp [hlook]
  · rfl
  · rfl
  · exact absurd hinst hdone

/-- A run ends where steps lead to from one of its threads. -/
theorem steps_run (h : (p.run text fuel threads seen).1 = some t') :
    (∃ t ∈ threads, Steps p text t t') ∧ p.code[t'.inst]? = some .done := by
  induction fuel generalizing threads seen with
  | zero => cases h
  | succ fuel ih =>
    cases threads with
    | nil => cases h
    | cons t others =>
      cases hseen : seen.contains (pair text t) with
      | true =>
        rw [run_seen hseen] at h
        obtain ⟨⟨u, hu, hsteps⟩, hdone⟩ := ih h
        exact ⟨⟨u, List.mem_cons_of_mem t hu, hsteps⟩, hdone⟩
      | false =>
        by_cases hdone : p.code[t.inst]? = some .done
        · rw [run_done hseen hdone] at h
          obtain rfl := Option.some.inj h
          exact ⟨⟨t, List.mem_cons_self, .refl⟩, hdone⟩
        · rw [run_step hseen hdone] at h
          obtain ⟨⟨u, hu, hsteps⟩, hend⟩ := ih h
          refine ⟨?_, hend⟩
          rcases List.mem_append.1 hu with hu | hu
          · exact ⟨t, List.mem_cons_self, hsteps.head (mem_successors_iff.1 hu)⟩
          · exact ⟨u, List.mem_cons_of_mem t hu, hsteps⟩

/-! ## One match -/

variable {m : Match} {start : Nat}

theorem matches_matchAt (hstart : start ≤ text.size)
    (h : (p.matchAt text seen start).1 = some m) : Matches p text m ∧ m.start = start := by
  rw [matchAt] at h
  rcases hrun : p.run text (p.fuelFor text) [⟨p.entry, start, []⟩] seen with ⟨_ | t, seen'⟩
  · simp only [hrun] at h
    cases h
  · simp only [hrun, Option.some.injEq] at h
    obtain ⟨⟨u, hu, hsteps⟩, hdone⟩ := steps_run (congrArg Prod.fst hrun)
    obtain rfl := List.mem_singleton.1 hu
    subst h
    exact ⟨⟨hstart, t, hsteps, hdone, rfl⟩, rfl⟩

theorem matches_search {count : Nat} (hcount : start + count ≤ text.size + 1)
    (h : p.search text seen start count = some m) : Matches p text m ∧ start ≤ m.start := by
  induction count generalizing seen start with
  | zero => cases h
  | succ count ih =>
    rw [search] at h
    rcases hat : p.matchAt text seen start with ⟨_ | found, seen'⟩
    · simp only [hat] at h
      obtain ⟨hm, hle⟩ := ih (by omega) h
      exact ⟨hm, by omega⟩
    · simp only [hat, Option.some.injEq] at h
      subst h
      obtain ⟨hm, hstart⟩ := matches_matchAt (by omega) (congrArg Prod.fst hat)
      exact ⟨hm, Nat.le_of_eq hstart.symm⟩

theorem find?_after_end (h : text.size < start) : p.find? text start = none := by
  have hcount : text.size + 1 - start = 0 := by omega
  rw [find?, hcount, search]

/-- What is found from a position on is a match that starts there or later. -/
theorem matches_find? (h : p.find? text start = some m) : Matches p text m ∧ start ≤ m.start := by
  by_cases hstart : start ≤ text.size
  · exact matches_search (by omega) h
  · rw [find?_after_end (by omega)] at h
    cases h

/-- The next match is not the empty one where the match before has ended. -/
theorem matches_findNext {last : Option Nat} (h : p.findNext text start last = some m) :
    Matches p text m ∧ start ≤ m.start ∧ (last = some start → start < m.stop) := by
  rw [findNext] at h
  cases hfind : p.find? text start with
  | none =>
    simp only [hfind] at h
    cases h
  | some found =>
    simp only [hfind] at h
    split at h
    · obtain ⟨hm, hle⟩ := matches_find? h
      have := hm.start_le_stop
      exact ⟨hm, by omega, fun _ => by omega⟩
    · next hempty =>
      obtain rfl := Option.some.inj h
      obtain ⟨hm, hle⟩ := matches_find? hfind
      refine ⟨hm, hle, fun hlast => ?_⟩
      have := hm.start_le_stop
      simp only [hlast, Bool.and_eq_true, decide_eq_true_eq, Option.some.injEq, not_and] at hempty
      omega

end Program

/-! ## All matches -/

/-- Matches each of which is the next one after the one before, and after the last of which
there is none. -/
inductive FoundFrom (p : Program) (text : Array Char) : Nat → Option Nat → List Match → Prop where
  | nil {start : Nat} {last : Option Nat} (h : p.findNext text start last = none) :
      FoundFrom p text start last []
  | cons {start : Nat} {last : Option Nat} {m : Match} {rest : List Match}
      (h : p.findNext text start last = some m)
      (hrest : FoundFrom p text m.stop (some m.stop) rest) : FoundFrom p text start last (m :: rest)

/-- Matches that ascend and do not overlap, at positions from `start` to `size`. -/
inductive Successive (size : Nat) : Nat → List Match → Prop where
  | nil {start : Nat} (h : start ≤ size) : Successive size start []
  | cons {start : Nat} {m : Match} {rest : List Match} (hstart : start ≤ m.start)
      (hstop : m.start ≤ m.stop) (hrest : Successive size m.stop rest) :
      Successive size start (m :: rest)

theorem Successive.start_le {size start : Nat} {ms : List Match} (h : Successive size start ms) :
    start ≤ size := by
  induction h with
  | nil h => exact h
  | cons hstart hstop _ ih => omega

theorem FoundFrom.successive {start : Nat} {last : Option Nat} {ms : List Match}
    (h : FoundFrom p text start last ms) (hstart : start ≤ text.size) :
    Successive text.size start ms := by
  induction h with
  | nil => exact .nil hstart
  | cons h _ ih =>
    obtain ⟨hm, hle, -⟩ := Program.matches_findNext h
    exact .cons hle hm.start_le_stop (ih hm.stop_le_size)

theorem FoundFrom.matches {start : Nat} {last : Option Nat} {ms : List Match}
    (h : FoundFrom p text start last ms) : ∀ m ∈ ms, Matches p text m := by
  induction h with
  | nil => exact List.forall_mem_nil _
  | cons h _ ih => exact List.forall_mem_cons.2 ⟨(Program.matches_findNext h).1, ih⟩

namespace Program

/-- From the end of a match on, every further match ends later. -/
theorem foundFrom_findAllFrom {fuel start : Nat} (hfuel : text.size < fuel + start) :
    FoundFrom p text start (some start) (p.findAllFrom text fuel start (some start)) := by
  induction fuel generalizing start with
  | zero =>
    exact .nil (by rw [findNext, find?_after_end (by omega)])
  | succ fuel ih =>
    rw [findAllFrom]
    cases hnext : p.findNext text start (some start) with
    | none => exact .nil hnext
    | some m =>
      obtain ⟨-, -, hlater⟩ := matches_findNext hnext
      have := hlater rfl
      exact .cons hnext (ih (by omega))

/-- All matches of a text are found. -/
theorem foundFrom_findAll (p : Program) (text : Array Char) :
    FoundFrom p text 0 none (p.findAll text) := by
  rw [findAll, findAllFrom]
  cases hnext : p.findNext text 0 none with
  | none => exact .nil hnext
  | some m => exact .cons hnext (foundFrom_findAllFrom (by omega))

end Program

end EditWaves.Pattern
