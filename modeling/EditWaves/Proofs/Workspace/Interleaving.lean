import Mathlib.Data.Set.Basic
import EditWaves.Proofs.Workspace.Steps
import EditWaves.Proofs.Workspace.StoredFiles

/-!
# The files of a wave side by side

The pipelines of a wave do not get in each other's way: in whichever order they take their
steps, they leave the files as the wave does that takes one file after the other, and the
same of them fail.  The files have to be stored apart from each other, and they can refuse
to be read or written.

* `DistinctStorage`: what it is for files to be stored apart.
* `reached_step`: one step of a pipeline, in a place that others have used in the meantime.
* `underway_advanceAll`: how the pipelines are doing at any time.
* `apply_interleaved`: any schedule against the wave itself.
-/

namespace EditWaves

/-! ## Files that are stored apart -/

/-- The files of some names are stored apart: each has a cell of its own, which is all that
reading and writing it depends on and all that they change. -/
structure DistinctStorage (φ : Type) [FileAccess φ] (names : Set String) where
  Cell : Type
  cell : φ → String → Cell
  result_read {s t : φ} {name : String} : name ∈ names → cell s name = cell t name →
    (FileAccess.read s name).1 = (FileAccess.read t name).1
  cell_read {s t : φ} {name : String} : name ∈ names → cell s name = cell t name →
    cell (FileAccess.read s name).2 name = cell (FileAccess.read t name).2 name
  cell_read_of_ne {s : φ} {name k : String} : name ∈ names → k ∈ names → k ≠ name →
    cell (FileAccess.read s name).2 k = cell s k
  result_write {s t : φ} {name : String} (text : String) : name ∈ names →
    cell s name = cell t name →
    (FileAccess.write s name text).1 = (FileAccess.write t name text).1
  cell_write {s t : φ} {name : String} (text : String) : name ∈ names →
    cell s name = cell t name →
    cell (FileAccess.write s name text).2 name = cell (FileAccess.write t name text).2 name
  cell_write_of_ne {s : φ} {name k : String} (text : String) : name ∈ names → k ∈ names →
    k ≠ name → cell (FileAccess.write s name text).2 k = cell s k

/-- All files in memory are stored apart. -/
def Store.distinct : DistinctStorage Store Set.univ where
  Cell := Option StoredFile
  cell s name := s.files.get? name
  result_read _ h := by
    show (Store.read _ _).1 = (Store.read _ _).1
    rw [Store.result_read, Store.result_read, h]
  cell_read _ h := by
    show (Store.read _ _).2.files.get? _ = (Store.read _ _).2.files.get? _
    rw [Store.get?_read, Store.get?_read, h]
  cell_read_of_ne _ _ hk := by
    show (Store.read _ _).2.files.get? _ = _
    rw [Store.get?_read, if_neg hk.symm]
  result_write text _ h := by
    show (Store.write _ _ _).1 = (Store.write _ _ _).1
    rw [Store.result_write, Store.result_write, h]
  cell_write text _ h := by
    show (Store.write _ _ _).2.files.get? _ = (Store.write _ _ _).2.files.get? _
    rw [Store.get?_write, Store.get?_write, h]
  cell_write_of_ne text _ _ hk := by
    show (Store.write _ _ _).2.files.get? _ = _
    rw [Store.get?_write, if_neg hk.symm]

theorem Store.cell_distinct (s : Store) (name : String) :
    Store.distinct.cell s name = s.files.get? name := rfl

/-! ## One step among others -/

variable {φ : Type} [FileAccess φ] {names : Set String} (storage : DistinctStorage φ names)

namespace Workspace

/-- How things are when the pipeline of a file that started in a workspace has come to a
stage.  At the end they are as its pipeline leaves them when there is no other one. -/
def Reached (w : Workspace φ) (name : String) (ms : List Mutation) (cell : storage.Cell) :
    Stage → Prop
  | .waiting => cell = storage.cell w.files name
  | .loaded contents => (FileAccess.read w.files name).1 = .ok contents ∧
      cell = storage.cell (FileAccess.read w.files name).2 name
  | .edited text => ∃ contents, (FileAccess.read w.files name).1 = .ok contents ∧
      w.resolver.lookup.applyEach contents (Mutation.sweep ms) = .ok text ∧
      cell = storage.cell (FileAccess.read w.files name).2 name
  | .done outcome => outcome = (w.applyFile name ms).1 ∧
      cell = storage.cell (w.applyFile name ms).2.1.files name

variable {storage} {w v : Workspace φ} {name k : String} {ms : List Mutation}

/-- A step leaves the files of all other names. -/
theorem cell_step_of_ne (hname : name ∈ names) (hk : k ∈ names) (hne : k ≠ name) (s : Stage) :
    storage.cell (v.step name ms s).2.1.files k = storage.cell v.files k := by
  cases s with
  | waiting => exact storage.cell_read_of_ne hname hk hne
  | loaded contents => rfl
  | edited text => exact storage.cell_write_of_ne text hname hk hne
  | done outcome => rfl

/-- A pipeline goes on as it would alone, if its file has been left to it and the resolver
still stands for the same. -/
theorem reached_step (hname : name ∈ names) (hlookup : v.resolver.lookup = w.resolver.lookup)
    {s : Stage} (h : Reached storage w name ms (storage.cell v.files name) s) :
    Reached storage w name ms (storage.cell (v.step name ms s).2.1.files name)
      (v.step name ms s).1 := by
  cases s with
  | waiting =>
    have hcell : storage.cell (FileAccess.read v.files name).2 name
        = storage.cell (FileAccess.read w.files name).2 name := storage.cell_read hname h
    have hresult : (FileAccess.read v.files name).1 = (FileAccess.read w.files name).1 :=
      storage.result_read hname h
    show Reached _ _ _ _ _ (Stage.after .loaded (FileAccess.read v.files name).1)
    rw [hresult]
    rcases hread : FileAccess.read w.files name with ⟨_ | contents, files⟩
    case error e =>
      obtain ⟨hfails, hfiles⟩ : (w.applyFile name ms).1 = .error e ∧
          (w.applyFile name ms).2.1.files = files := applyFile_unreadable hread
      rw [hread] at hcell
      exact ⟨hfails.symm, hcell.trans (by rw [hfiles])⟩
    case ok => exact ⟨by rw [hread], hcell⟩
  | loaded contents =>
    obtain ⟨hread, hcell⟩ := h
    have hresult := result_mutateAll v.resolver name contents (Mutation.sweep ms)
    show Reached _ _ _ _ _ (Stage.after .edited (Except.mapError _ (mutateAll _ _ _ _).result))
    rw [hresult, hlookup]
    cases hedit : w.resolver.lookup.applyEach contents (Mutation.sweep ms) with
    | error fault =>
      obtain ⟨hfails, hfiles⟩ := applyFile_fault (Prod.ext hread rfl) hedit
      exact ⟨hfails.symm, hcell.trans (by rw [hfiles])⟩
    | ok text => exact ⟨contents, hread, hedit, hcell⟩
  | edited text =>
    obtain ⟨contents, hread, hedit, hcell⟩ := h
    obtain ⟨hresult, hfiles⟩ := applyFile_edited (Prod.ext hread rfl) hedit
    refine ⟨?_, ?_⟩
    · rw [hresult, ← storage.result_write text hname hcell]
      rfl
    · rw [hfiles]
      exact storage.cell_write text hname hcell
  | done outcome => exact h

end Workspace

/-! ## All pipelines of a wave -/

namespace Progress

/-- How the pipelines of a wave that started in a workspace are doing: each as if there were
no other one. -/
structure Underway (storage : DistinctStorage φ names) (w : Workspace φ) (files : FileMutations)
    (p : Progress φ) : Prop where
  lookup : p.workspace.resolver.lookup = w.resolver.lookup
  reached : ∀ name ms, files.get? name = some ms →
    w.Reached storage name ms (storage.cell p.workspace.files name) (p.stage name)
  untouched : ∀ name ∈ names, files.get? name = none →
    storage.cell p.workspace.files name = storage.cell w.files name

variable {storage} {w : Workspace φ} {files : FileMutations} {p : Progress φ}

theorem underway_start : Underway storage w files (start w) :=
  ⟨rfl, fun _ _ _ => rfl, fun _ _ _ => rfl⟩

theorem underway_advance (hnames : ∀ name ∈ files.keys, name ∈ names) (name : String)
    (h : Underway storage w files p) : Underway storage w files (p.advance files name) := by
  have hmem : ∀ {k ks}, files.get? k = some ks → k ∈ names :=
    fun hks => hnames _ (Dict.mem_keys_iff.2 ⟨_, hks⟩)
  cases hms : files.get? name with
  | none =>
    rw [advance_of_none hms]
    exact h
  | some ms =>
    rw [advance_of_some hms]
    refine ⟨?_, ?_, ?_⟩
    · exact (Workspace.lookup_step _ _ _ _).trans h.lookup
    · intro k ks hks
      by_cases hk : k = name
      · subst hk
        obtain rfl : ms = ks := Option.some.inj (hms.symm.trans hks)
        simp only [Function.update_self]
        exact Workspace.reached_step (hmem hms) h.lookup (h.reached k ms hms)
      · simp only [Function.update_of_ne hk]
        rw [Workspace.cell_step_of_ne (hmem hms) (hmem hks) hk]
        exact h.reached k ks hks
    · intro k hk hnone
      have hne : k ≠ name := by
        rintro rfl
        rw [hms] at hnone
        cases hnone
      rw [Workspace.cell_step_of_ne (hmem hms) hk hne]
      exact h.untouched k hk hnone

/-- However far the pipelines have come, none has got in another's way. -/
theorem underway_advanceAll (hnames : ∀ name ∈ files.keys, name ∈ names) (schedule : List String)
    (h : Underway storage w files p) : Underway storage w files (p.advanceAll files schedule) := by
  induction schedule generalizing p with
  | nil => exact h
  | cons name rest ih => exact ih (underway_advance hnames name h)

/-! ## Waves that are done -/

namespace Underway

variable (h : Underway storage w files p) (hdone : p.Finished files) {name : String}
  {ms : List Mutation}

include h hdone

/-- A pipeline that is done has gone as if there were no other one. -/
theorem alone (hms : files.get? name = some ms) :
    p.stage name = .done (w.applyFile name ms).1 ∧
      storage.cell p.workspace.files name = storage.cell (w.applyFile name ms).2.1.files name := by
  obtain ⟨outcome, hstage⟩ := hdone name (Dict.mem_keys_iff.2 ⟨ms, hms⟩)
  have hreached := h.reached name ms hms
  rw [hstage] at hreached
  exact ⟨hstage.trans (congrArg Stage.done hreached.1), hreached.2⟩

/-- The failures are those of the files that fail alone. -/
theorem mem_failures_iff {e : FileError} : (name, e) ∈ p.failures files.entries ↔
    ∃ ms, files.get? name = some ms ∧ (w.applyFile name ms).1 = .error e := by
  rw [Progress.mem_failures_iff, Dict.mem_keys_iff]
  constructor
  · rintro ⟨⟨ms, hms⟩, hstage⟩
    rw [(h.alone hdone hms).1] at hstage
    exact ⟨ms, hms, Stage.done.inj hstage⟩
  · rintro ⟨ms, hms, happly⟩
    refine ⟨⟨ms, hms⟩, ?_⟩
    rw [(h.alone hdone hms).1, happly]

theorem outcome_eq_ok_iff : p.outcome files = .ok () ↔
    ∀ name ms, files.get? name = some ms → ∃ text, (w.applyFile name ms).1 = .ok text := by
  have hempty : p.outcome files = .ok () ↔ p.failures files.entries = [] := by
    rw [outcome]
    cases p.failures files.entries with
    | nil => simp
    | cons failure rest => simp
  rw [hempty, List.eq_nil_iff_forall_not_mem]
  constructor
  · intro hnone name ms hms
    cases happly : (w.applyFile name ms).1 with
    | ok text => exact ⟨text, rfl⟩
    | error e => exact absurd ((h.mem_failures_iff hdone).2 ⟨ms, hms, happly⟩) (hnone _)
  · rintro hall ⟨name, e⟩ hmem
    obtain ⟨ms, hms, happly⟩ := (h.mem_failures_iff hdone).1 hmem
    obtain ⟨text, htext⟩ := hall name ms hms
    rw [happly] at htext
    cases htext

variable {q : Progress φ} (hq : Underway storage w files q) (hqdone : q.Finished files)

include hq hqdone

/-- The files of waves that are done do not tell which way they went. -/
theorem cell_eq (hname : name ∈ names) :
    storage.cell p.workspace.files name = storage.cell q.workspace.files name := by
  cases hms : files.get? name with
  | none => exact (h.untouched name hname hms).trans (hq.untouched name hname hms).symm
  | some ms => exact (h.alone hdone hms).2.trans (hq.alone hqdone hms).2.symm

theorem failures_eq : p.failures files.entries = q.failures files.entries := by
  refine List.filterMap_congr ?_
  rintro ⟨name, ms⟩ hentry
  have hms := Dict.mem_entries_iff.1 hentry
  rw [(h.alone hdone hms).1, (hq.alone hqdone hms).1]

theorem outcome_eq : p.outcome files = q.outcome files := by
  rw [outcome, outcome, h.failures_eq hdone hq hqdone]

end Underway

end Progress

open Progress

/-- Whatever the order in which the pipelines of a wave take their steps, they come to an
end, and then everything is as after the wave that takes one file after the other. -/
theorem apply_interleaved (storage : DistinctStorage φ names) (w : Workspace φ)
    (files : FileMutations) (hnames : ∀ name ∈ files.keys, name ∈ names)
    (schedule : List String) :
    let p := (start w).advanceAll files schedule
    ((∀ name ∈ files.keys, 3 ≤ schedule.count name) → p.Finished files) ∧
      (p.Finished files →
        (∀ name ∈ names, storage.cell p.workspace.files name
          = storage.cell (w.apply files).2.1.files name) ∧
        p.outcome files = (w.apply files).1 ∧
        (∀ name ms, files.get? name = some ms → p.stage name = .done (w.applyFile name ms).1) ∧
        ((p.failures files.entries).map Prod.fst).Pairwise (· < ·) ∧
        (∀ name e, (name, e) ∈ p.failures files.entries ↔
          ∃ ms, files.get? name = some ms ∧ (w.applyFile name ms).1 = .error e) ∧
        (p.outcome files = .ok () ↔
          ∀ name ms, files.get? name = some ms → ∃ text, (w.applyFile name ms).1 = .ok text)) := by
  intro p
  refine ⟨finished_advanceAll, ?_⟩
  intro hdone
  have hp : Underway storage w files p := underway_advanceAll hnames schedule underway_start
  have hserial := apply_serial files w
  -- the wave itself is one of the schedules, and it comes to an end too
  have hq : Underway storage w files ((start w).advanceAll files (serial files.entries)) :=
    underway_advanceAll hnames _ underway_start
  have hqdone : ((start w).advanceAll files (serial files.entries)).Finished files :=
    finished_advanceAll (fun name hname => three_le_count_serial hname)
  have hfailures : p.failures files.entries = (w.applyFiles files.entries).1 :=
    (hp.failures_eq hdone hq hqdone).trans (failures_serial (waits_start files w))
  rw [hserial]
  refine ⟨?_, hp.outcome_eq hdone hq hqdone, ?_, ?_, ?_, hp.outcome_eq_ok_iff hdone⟩
  · intro name hname
    exact hp.cell_eq hdone hq hqdone hname
  · intro name ms hms
    exact (hp.alone hdone hms).1
  · rw [hfailures]
    exact files.pairwise_keys.sublist (w.failures_sublist files.entries)
  · intro name e
    exact hp.mem_failures_iff hdone

/-- Three files that take turns: one cannot be read and one cannot be written. -/
theorem apply_interleaved_three :
    let w : Workspace Store := .new ⟨.ofList [("a.txt", .new "one" [] []),
      ("b.txt", .new "two" [0] []), ("c.txt", .new "three" [] [0])]⟩ .builtins
    let files : FileMutations := .ofList [("a.txt", [.insert (.point 0) "-"]),
      ("b.txt", [.delete ⟨0, some 1⟩]),
      ("c.txt", [.swap (.span 0 5) "four", .custom (.point 9) "text-shout" .empty])]
    let schedule :=
      ["c.txt", "a.txt", "b.txt", "c.txt", "b.txt", "a.txt", "b.txt", "a.txt", "c.txt"]
    let p := (start w).advanceAll files schedule
    (∀ name ∈ files.keys, 3 ≤ schedule.count name) ∧ p.Finished files ∧
      (∀ name, p.workspace.files.files.get? name = (w.apply files).2.1.files.files.get? name) ∧
      p.outcome files = (w.apply files).1 := by
  intro w files schedule
  have hturns : ∀ name ∈ files.keys, 3 ≤ schedule.count name := by decide
  obtain ⟨hfinishes, hthen⟩ :=
    apply_interleaved Store.distinct w files (fun _ _ => Set.mem_univ _) schedule
  have hdone := hfinishes hturns
  obtain ⟨hfiles, houtcome, -⟩ := hthen hdone
  simp only [Store.cell_distinct] at hfiles
  exact ⟨hturns, hdone, fun name => hfiles name (Set.mem_univ name), houtcome⟩

end EditWaves
