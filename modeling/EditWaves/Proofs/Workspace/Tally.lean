import Mathlib.Algebra.BigOperators.Group.List.Lemmas
import Mathlib.Algebra.GroupWithZero.Nat
import EditWaves.Proofs.Resolver.Unresolved
import EditWaves.Proofs.Workspace.Reports

/-!
# Counting what a wave does

The pipelines of a wave report mutations that are applied and mutations that are skipped, all into
one log.  How many there are of each is said here by what every pipeline has read: a pipeline counts
once it has applied its mutations, whatever becomes of the file afterwards, and in whatever order
the pipelines take their turns.

* `Lookup.reached`: how many mutations of a file are applied.
* `Resolver.missed`: how many dispatches find no mutator while they are.
* `skipped_advanceAll`: the skipped mutations in the log of a wave underway.
-/

namespace EditWaves

/-- A sum in which one summand has changed. -/
theorem sum_map_of_one_changed {α : Type} {l : List α} (hl : l.Nodup) {a : α} (ha : a ∈ l)
    {f g : α → Nat} (hsame : ∀ b ∈ l, b ≠ a → g b = f b) :
    (l.map g).sum + f a = (l.map f).sum + g a := by
  classical
  have hrest : (l.erase a).map g = (l.erase a).map f := by
    refine List.map_congr_left ?_
    intro b hb
    obtain ⟨hne, hb⟩ := hl.mem_erase_iff.1 hb
    exact hsame b hb hne
  rw [← List.sum_map_erase f ha, ← List.sum_map_erase g ha, hrest]
  omega

/-! ## The mutations of a file -/

namespace Lookup

variable {find : Lookup} {ms : List Mutation}

/-- How many of some mutations are applied one after another: those before the first that fails, and
all of them if none does. -/
def reach (find : Lookup) (contents : String) : List Mutation → Nat
  | [] => 0
  | m :: rest =>
    match (find.dispatch contents m).result with
    | .ok text => find.reach text rest + 1
    | .error _ => 0

theorem reach_append {contents text : String} {front : List Mutation}
    (hfront : find.applyEach contents front = .ok text) (rest : List Mutation) :
    find.reach contents (front ++ rest) = front.length + find.reach text rest := by
  induction front generalizing contents with
  | nil =>
    obtain rfl : contents = text := Except.ok.inj hfront
    simp
  | cons m front ih =>
    cases hm : (find.dispatch contents m).result with
    | error fault => simp [applyEach_cons_error hm] at hfront
    | ok between =>
      rw [applyEach_cons_ok hm] at hfront
      simp only [List.cons_append, reach, hm, ih hfront, List.length_cons]
      omega

/-- How many mutations are applied to a file of which this was read. -/
def reached (find : Lookup) (ms : List Mutation) : Except FileError String → Nat
  | .ok contents => find.reach contents (Mutation.sweep ms)
  | .error _ => 0

/-- So many are reported, also if the file cannot be written afterwards. -/
theorem length_of_fileReport {read outcome : Except FileError String} {applied : List Mutation}
    (h : FileReport find ms read applied outcome) : applied.length = find.reached ms read := by
  cases h with
  | unreadable e => rfl
  | @faulty contents text front back m fault hkept hfront hfault =>
    have hnone : find.reach text (m :: back) = 0 := by simp [reach, hfault]
    rw [reached, hkept, reach_append hfront, hnone, Nat.add_zero]
  | @edited contents text outcome hedit hwrite =>
    have hall := reach_append hedit []
    rw [List.append_nil] at hall
    simp [reached, hall, reach]

end Lookup

namespace Resolver

/-- How many dispatches find no mutator while mutations are applied to a file of which this was
read, at whatever depth. -/
def missed (r : Resolver) (ms : List Mutation) : Except FileError String → Nat
  | .ok contents => (unresolved (r.visitsAll contents (Mutation.sweep ms))).length
  | .error _ => 0

end Resolver

/-! ## The pipelines of a wave -/

/-- How many dispatches have found no mutator when the pipeline of a file has come to a stage, if
this is what it reads. -/
def Stage.missed (r : Resolver) (ms : List Mutation) (read : Except FileError String) :
    Stage → Nat
  | waiting | loaded _ => 0
  | edited _ | done _ => r.missed ms read

variable {φ : Type} [FileAccess φ]

/-- With each step they become more by the mutations that it skips. -/
theorem Workspace.missed_step {v : Workspace φ} {name : String} {ms applied : List Mutation}
    {read : Except FileError String} {r : Resolver} {s : Stage}
    (hlookup : v.resolver.lookup = r.lookup)
    (hread : s = .waiting → (FileAccess.read v.files name).1 = read)
    (h : s.Follows v.resolver.lookup ms read applied) :
    (v.step name ms s).1.missed r ms read
      = s.missed r ms read + (Log.skipped (v.step name ms s).2.2).length := by
  cases s with
  | waiting =>
    show (Stage.after .loaded (FileAccess.read v.files name).1).missed r ms read
      = 0 + (Log.skipped (dropNotes ms)).length
    rw [hread rfl, skipped_dropNotes]
    cases read <;> rfl
  | loaded contents =>
    obtain ⟨rfl, -⟩ := h
    have hskipped : Log.skipped (mutateAll v.resolver name contents (Mutation.sweep ms)).log
        = Resolver.unresolved (r.visitsAll contents (Mutation.sweep ms)) := by
      rw [skipped_mutateAll, hlookup, Resolver.skipped_dispatchAll]
    show (Stage.after .edited (Except.mapError .mutation (mutateAll _ _ _ _).result)).missed _ _ _
      = 0 + (Log.skipped (mutateAll v.resolver name contents (Mutation.sweep ms)).log).length
    rw [hskipped, Nat.zero_add]
    cases (mutateAll v.resolver name contents (Mutation.sweep ms)).result <;> rfl
  | edited text => rfl
  | done outcome => rfl

namespace Progress

variable {w : Workspace φ} {files : FileMutations} {name turn : String} {ms : List Mutation}
  {schedule : List String}

theorem advanceAll_concat (p : Progress φ) (schedule : List String) (turn : String) :
    p.advanceAll files (schedule ++ [turn]) = (p.advanceAll files schedule).advance files turn := by
  rw [advanceAll, List.foldl_append]
  rfl

/-- A pipeline that has had a turn does not wait. -/
theorem stage_ne_waiting_of_mem (hms : files.get? name = some ms) (hname : name ∈ schedule) :
    ((start w).advanceAll files schedule).stage name ≠ .waiting := by
  induction schedule using List.reverseRecOn with
  | nil => cases hname
  | append_singleton schedule turn ih =>
    rw [advanceAll_concat]
    by_cases hturn : name = turn
    · subst hturn
      rw [advance_of_some hms]
      simpa using Workspace.step_ne_waiting _
    · rw [stage_advance_of_ne hturn]
      exact ih (by simpa [hturn] using hname)

/-- The turns before the first one of a pipeline. -/
theorem takeWhile_ne_append {front : List String} (hname : name ∉ front) (later : List String) :
    (front ++ name :: later).takeWhile (· ≠ name) = front := by
  have hothers : ∀ turn ∈ front, decide (turn ≠ name) = true := by
    intro turn hturn
    exact decide_eq_true (fun heq => hname (heq ▸ hturn))
  rw [List.takeWhile_append_of_pos hothers, List.takeWhile_cons_of_neg (by simp), List.append_nil]

/-- What has been read by a pipeline does not change any more. -/
theorem contentsRead_append (hname : name ∈ schedule) (later : List String) :
    contentsRead w files (schedule ++ later) name = contentsRead w files schedule name := by
  obtain ⟨front, back, rfl, hfront⟩ := List.eq_append_cons_of_mem hname
  simp only [contentsRead, List.append_assoc, List.cons_append, takeWhile_ne_append hfront]

/-- A pipeline reads what is there when its first turn comes. -/
theorem contentsRead_concat (hname : name ∉ schedule) :
    contentsRead w files (schedule ++ [name]) name
      = (FileAccess.read ((start w).advanceAll files schedule).workspace.files name).1 := by
  simp only [contentsRead, takeWhile_ne_append hname]

/-- How many dispatches have found no mutator in the pipeline of a file. -/
def missedBy (w : Workspace φ) (files : FileMutations) (schedule : List String)
    (e : String × List Mutation) : Nat :=
  (((start w).advanceAll files schedule).stage e.1).missed w.resolver e.2
    (contentsRead w files schedule e.1)

/-- The turn of another pipeline does not matter. -/
theorem missedBy_concat_of_ne {e : String × List Mutation} (hturn : e.1 ≠ turn) :
    missedBy w files (schedule ++ [turn]) e = missedBy w files schedule e := by
  rw [missedBy, missedBy, advanceAll_concat, stage_advance_of_ne hturn]
  by_cases he : e.1 ∈ schedule
  · rw [contentsRead_append he]
  · rw [stage_advanceAll_of_not_mem he]
    rfl

/-- The turn of the pipeline itself adds the mutations that its step skips. -/
theorem missedBy_concat_self (hms : files.get? turn = some ms) :
    missedBy w files (schedule ++ [turn]) (turn, ms) = missedBy w files schedule (turn, ms) +
      (Log.skipped (((start w).advanceAll files schedule).workspace.step turn ms
        (((start w).advanceAll files schedule).stage turn)).2.2).length := by
  have hfollows := follows_advanceAll (w := w) hms schedule
  have hlookup : ((start w).advanceAll files schedule).workspace.resolver.lookup
      = w.resolver.lookup := lookup_advanceAll _ schedule
  have hstep : (((start w).advanceAll files schedule).advance files turn).stage turn
      = (((start w).advanceAll files schedule).workspace.step turn ms
          (((start w).advanceAll files schedule).stage turn)).1 := by
    rw [advance_of_some hms]
    exact Function.update_self _ _ _
  simp only [missedBy, advanceAll_concat, hstep]
  by_cases hturn : turn ∈ schedule
  · have hstarted := stage_ne_waiting_of_mem (w := w) hms hturn
    rw [contentsRead_append hturn]
    exact Workspace.missed_step hlookup (fun hwaiting => absurd hwaiting hstarted) hfollows
  · have hwaiting : ((start w).advanceAll files schedule).stage turn = .waiting :=
      stage_advanceAll_of_not_mem hturn
    rw [Follows, hwaiting] at hfollows
    rw [hwaiting]
    exact Workspace.missed_step hlookup (fun _ => (contentsRead_concat hturn).symm) hfollows

/-- The mutations that have been skipped are those of all pipelines together. -/
theorem skipped_advanceAll (w : Workspace φ) (files : FileMutations) (schedule : List String) :
    (Log.skipped ((start w).advanceAll files schedule).log).length
      = (files.entries.map (missedBy w files schedule)).sum := by
  induction schedule using List.reverseRecOn with
  | nil =>
    have hzero : ∀ e ∈ files.entries, missedBy w files [] e = 0 := fun _ _ => rfl
    rw [List.map_congr_left hzero]
    simp [advanceAll, start, Log.skipped]
  | append_singleton schedule turn ih =>
    have hothers : ∀ e ∈ files.entries, e.1 ≠ turn →
        missedBy w files (schedule ++ [turn]) e = missedBy w files schedule e :=
      fun e _ hturn => missedBy_concat_of_ne hturn
    rw [advanceAll_concat]
    cases hms : files.get? turn with
    | none =>
      have hsame : ∀ e ∈ files.entries,
          missedBy w files (schedule ++ [turn]) e = missedBy w files schedule e := by
        intro e he
        refine hothers e he ?_
        rintro rfl
        rw [Dict.mem_entries_iff.1 he] at hms
        cases hms
      rw [advance_of_none hms, ih, List.map_congr_left hsame]
    | some ms =>
      have hmem : (turn, ms) ∈ files.entries := Dict.mem_entries_iff.2 hms
      have hsame : ∀ e ∈ files.entries, e ≠ (turn, ms) →
          missedBy w files (schedule ++ [turn]) e = missedBy w files schedule e := by
        rintro ⟨name, ks⟩ he hne
        refine hothers _ he ?_
        rintro rfl
        have hfound := Dict.mem_entries_iff.1 he
        rw [hms] at hfound
        exact hne (by rw [Option.some.inj hfound])
      have hsum := sum_map_of_one_changed files.nodup_entries hmem hsame
      rw [missedBy_concat_self hms] at hsum
      rw [advance_of_some hms, Log.skipped_append, List.length_append, ih]
      omega

/-- When all pipelines are done, each counts with what it has read. -/
theorem length_skipped_of_finished {w : Workspace φ}
    (hdone : ((start w).advanceAll files schedule).Finished files) :
    (Log.skipped ((start w).advanceAll files schedule).log).length
      = (files.entries.map
          (fun e => w.resolver.missed e.2 (contentsRead w files schedule e.1))).sum := by
  have hmissed : ∀ e ∈ files.entries, missedBy w files schedule e
      = w.resolver.missed e.2 (contentsRead w files schedule e.1) := by
    intro e he
    obtain ⟨outcome, hstage⟩ := hdone e.1 (List.mem_map_of_mem he)
    rw [missedBy, hstage]
    rfl
  rw [skipped_advanceAll, List.map_congr_left hmissed]

end Progress

end EditWaves
