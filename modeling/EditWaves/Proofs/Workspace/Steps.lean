import Mathlib.Logic.Function.Basic
import EditWaves.Proofs.Dict.Lookup
import EditWaves.Proofs.Workspace.Pipeline

/-!
# The pipelines of a wave, step by step

`Workspace.applyFile` goes through a file in one go.  Here its three steps can be taken one
by one, so that the pipelines of several files can be underway at the same time.  They share
the workspace, with the mutators that have been found so far, and the log.

* `Progress.advance`: one pipeline takes its next step.  A schedule is a list of names, and
  a pipeline that is done lets its further turns pass.
* `advance_thrice`: three turns of one pipeline are the pipeline.
* `apply_serial`: a wave is one of the schedules, that of one file after the other.
* `finished_advanceAll`: three turns are enough whatever happens in between.
-/

namespace EditWaves

variable {φ : Type} [FileAccess φ]

/-! ## One pipeline -/

/-- How far the pipeline of a file has come. -/
inductive Stage where
  | waiting
  /-- The file has been read. -/
  | loaded (contents : String)
  /-- All mutations have been applied to what was read. -/
  | edited (text : String)
  | done (outcome : Except FileError String)

namespace Stage

/-- The stage after a step that can fail. -/
def after (next : String → Stage) : Except FileError String → Stage
  | .ok text => next text
  | .error e => done (.error e)

/-- Why a pipeline failed, if it did. -/
def fault? : Stage → Option FileError
  | done (.error e) => some e
  | _ => none

/-- How many steps are left at most. -/
def left : Stage → Nat
  | waiting => 3
  | loaded _ => 2
  | edited _ => 1
  | done _ => 0

theorem left_le (s : Stage) : s.left ≤ 3 := by
  cases s with
  | waiting => exact Nat.le_refl 3
  | loaded contents => exact Nat.le_succ 2
  | edited text => exact Nat.le_add_left 1 2
  | done outcome => exact Nat.zero_le 3

theorem left_after_le {next : String → Stage} {n : Nat} (h : ∀ text, (next text).left ≤ n)
    (result : Except FileError String) : (after next result).left ≤ n := by
  cases result with
  | ok text => exact h text
  | error e => exact Nat.zero_le n

theorem eq_done_of_left_eq_zero {s : Stage} (h : s.left = 0) : ∃ outcome, s = .done outcome := by
  cases s with
  | done outcome => exact ⟨outcome, rfl⟩
  | waiting => cases h
  | loaded contents => cases h
  | edited text => cases h

/-- The fault of a pipeline is what it has ended with. -/
theorem fault?_eq_some_iff {s : Stage} {e : FileError} :
    s.fault? = some e ↔ s = .done (.error e) := by
  constructor
  · intro h
    rcases s with _ | _ | _ | (fault | text) <;> cases h
    rfl
  · rintro rfl
    rfl

end Stage

/-- The next step of the pipeline of a file: the stage afterwards, the workspace, and what
was reported. -/
def Workspace.step (w : Workspace φ) (name : String) (ms : List Mutation) :
    Stage → Stage × Workspace φ × Log
  | .waiting =>
    let (result, w) := w.readContents name
    (.after .loaded result, w, dropNotes ms)
  | .loaded contents =>
    let (result, w, log) := w.mutateContents name contents ms
    (.after .edited result, w, log)
  | .edited text =>
    let (result, w) := w.writeContents name text
    (.done result, w, [])
  | .done outcome => (.done outcome, w, [])

namespace Workspace

variable (w : Workspace φ) (name : String) (ms : List Mutation)

/-- Every step that is taken is one step less to take. -/
theorem left_step_le (s : Stage) : (w.step name ms s).1.left ≤ s.left - 1 := by
  cases s with
  | waiting => exact Stage.left_after_le (fun _ => Nat.le_refl 2) _
  | loaded contents => exact Stage.left_after_le (fun _ => Nat.le_refl 1) _
  | edited text => exact Nat.le_refl 0
  | done outcome => exact Nat.le_refl 0

/-- A step does not change what the resolver stands for. -/
theorem lookup_step (s : Stage) :
    (w.step name ms s).2.1.resolver.lookup = w.resolver.lookup := by
  cases s with
  | waiting => rfl
  | loaded contents => exact lookup_mutateAll w.resolver name contents (Mutation.sweep ms)
  | edited text => rfl
  | done outcome => rfl

/-- Three steps are the whole pipeline. -/
theorem step_thrice :
    let first := w.step name ms .waiting
    let second := first.2.1.step name ms first.1
    let third := second.2.1.step name ms second.1
    third.1 = .done (w.applyFile name ms).1 ∧ third.2.1 = (w.applyFile name ms).2.1 ∧
      first.2.2 ++ second.2.2 ++ third.2.2 = (w.applyFile name ms).2.2 := by
  rcases hread : w.readContents name with ⟨_ | contents, loaded⟩
  · simp only [step, applyFile, hread, Stage.after, List.append_nil, and_self]
  · rcases hmutate : loaded.mutateContents name contents ms with ⟨_ | text, edited, log⟩
    · simp only [step, applyFile, hread, hmutate, Stage.after, List.append_nil, and_self]
    · simp only [step, applyFile, hread, hmutate, Stage.after, List.append_nil, and_self]

end Workspace

/-! ## The pipelines of a wave -/

/-- A wave underway: the workspace that the pipelines share, how far each of them has come,
and what has been reported. -/
structure Progress (φ : Type) where
  workspace : Workspace φ
  stage : String → Stage
  log : Log

namespace Progress

/-- No pipeline has taken a step. -/
def start (w : Workspace φ) : Progress φ := ⟨w, fun _ => .waiting, []⟩

variable (files : FileMutations)

/-- The pipeline of a file takes its next step. -/
def advance (p : Progress φ) (name : String) : Progress φ :=
  match files.get? name with
  | none => p
  | some ms =>
    let (stage, workspace, log) := p.workspace.step name ms (p.stage name)
    ⟨workspace, Function.update p.stage name stage, p.log ++ log⟩

/-- The pipelines take their steps in the order of a schedule. -/
def advanceAll (p : Progress φ) (schedule : List String) : Progress φ :=
  schedule.foldl (advance files) p

/-- Every pipeline of the wave is done. -/
def Finished (p : Progress φ) : Prop :=
  ∀ name ∈ files.keys, ∃ outcome, p.stage name = .done outcome

/-- Those of some files that failed, in their order. -/
def failures (p : Progress φ) (l : List (String × List Mutation)) : List (String × FileError) :=
  l.filterMap (fun e => (p.stage e.1).fault?.map (Prod.mk e.1))

/-- What comes of the wave once all its pipelines are done. -/
def outcome (p : Progress φ) : Except ApplyError Unit :=
  if (p.failures files.entries).isEmpty then .ok () else .error (.files (p.failures files.entries))

variable {files} {p : Progress φ} {name : String} {ms : List Mutation}

theorem advance_of_none (h : files.get? name = none) : p.advance files name = p := by
  rw [advance, h]

theorem advance_of_some (h : files.get? name = some ms) :
    p.advance files name = ⟨(p.workspace.step name ms (p.stage name)).2.1,
      Function.update p.stage name (p.workspace.step name ms (p.stage name)).1,
      p.log ++ (p.workspace.step name ms (p.stage name)).2.2⟩ := by
  rw [advance, h]

/-- The turn of a pipeline leaves the stages of all others. -/
theorem stage_advance_of_ne {k : String} (hk : k ≠ name) :
    (p.advance files name).stage k = p.stage k := by
  cases hms : files.get? name with
  | none => rw [advance_of_none hms]
  | some ms =>
    rw [advance_of_some hms]
    exact Function.update_of_ne hk _ _

/-- A pipeline without a turn stays where it is. -/
theorem stage_advanceAll_of_not_mem {k : String} {schedule : List String} (hk : k ∉ schedule) :
    (p.advanceAll files schedule).stage k = p.stage k := by
  induction schedule generalizing p with
  | nil => rfl
  | cons turn rest ih =>
    rw [List.mem_cons, not_or] at hk
    exact (ih hk.2).trans (stage_advance_of_ne hk.1)

theorem lookup_advance (p : Progress φ) (name : String) :
    (p.advance files name).workspace.resolver.lookup = p.workspace.resolver.lookup := by
  cases hms : files.get? name with
  | none => rw [advance_of_none hms]
  | some ms =>
    rw [advance_of_some hms]
    exact Workspace.lookup_step _ _ _ _

/-- The steps of the pipelines do not change what the resolver stands for. -/
theorem lookup_advanceAll (p : Progress φ) (schedule : List String) :
    (p.advanceAll files schedule).workspace.resolver.lookup = p.workspace.resolver.lookup := by
  induction schedule generalizing p with
  | nil => rfl
  | cons turn rest ih => exact (ih _).trans (p.lookup_advance turn)

omit [FileAccess φ] in
/-- The files that failed stand in the order of the wave. -/
theorem names_failures_sublist (l : List (String × List Mutation)) :
    ((p.failures l).map Prod.fst).Sublist (l.map Prod.fst) := by
  induction l with
  | nil => exact .slnil
  | cons e rest ih =>
    rw [failures, List.filterMap_cons]
    cases (p.stage e.1).fault? with
    | none => exact ih.cons e.1
    | some fault => exact ih.cons_cons e.1

omit [FileAccess φ] in
/-- The files that failed are those whose pipelines did. -/
theorem mem_failures_iff {e : FileError} : (name, e) ∈ p.failures files.entries ↔
    name ∈ files.keys ∧ p.stage name = .done (.error e) := by
  constructor
  · intro hmem
    obtain ⟨⟨k, ks⟩, hentry, hfault⟩ := List.mem_filterMap.1 hmem
    obtain ⟨fault, hfault, heq⟩ := Option.map_eq_some_iff.1 hfault
    cases heq
    exact ⟨List.mem_map_of_mem hentry, Stage.fault?_eq_some_iff.1 hfault⟩
  · rintro ⟨hname, hstage⟩
    obtain ⟨ks, hks⟩ := Dict.mem_keys_iff.1 hname
    refine List.mem_filterMap.2 ⟨(name, ks), Dict.mem_entries_iff.2 hks, ?_⟩
    rw [Stage.fault?_eq_some_iff.2 hstage]
    rfl

/-! ## One file after the other -/

/-- Three turns of a pipeline that is waiting are the pipeline of its file. -/
theorem advance_thrice (h : files.get? name = some ms) (hwaiting : p.stage name = .waiting) :
    p.advanceAll files [name, name, name]
      = ⟨(p.workspace.applyFile name ms).2.1,
        Function.update p.stage name (.done (p.workspace.applyFile name ms).1),
        p.log ++ (p.workspace.applyFile name ms).2.2⟩ := by
  obtain ⟨hdone, hworkspace, hlog⟩ := p.workspace.step_thrice name ms
  simp only [advanceAll, List.foldl_cons, List.foldl_nil, advance_of_some h, hwaiting,
    Function.update_self, Function.update_idem, List.append_assoc] at *
  rw [hdone, hworkspace, hlog]

/-- The schedule in which the pipelines of some files go through one after the other. -/
def serial (l : List (String × List Mutation)) : List String :=
  l.flatMap (fun e => [e.1, e.1, e.1])

theorem mem_serial {l : List (String × List Mutation)} {k : String} :
    k ∈ serial l ↔ k ∈ l.map Prod.fst := by
  simp only [serial, List.mem_flatMap, List.mem_map, List.mem_cons, List.not_mem_nil, or_false,
    or_self]
  exact exists_congr fun _ => and_congr_right fun _ => eq_comm

/-- Each of the files has three turns. -/
theorem three_le_count_serial {l : List (String × List Mutation)} {k : String}
    (h : k ∈ l.map Prod.fst) : 3 ≤ (serial l).count k := by
  induction l with
  | nil => cases h
  | cons e rest ih =>
    rw [serial, List.flatMap_cons, List.count_append]
    rcases List.mem_cons.1 h with hk | hrest
    · have hturns : [e.1, e.1, e.1].count k = 3 := by rw [hk]; simp
      omega
    · exact Nat.le_trans (ih hrest) (Nat.le_add_left _ _)

theorem advanceAll_serial_cons (rest : List (String × List Mutation)) :
    p.advanceAll files (serial ((name, ms) :: rest))
      = (p.advanceAll files [name, name, name]).advanceAll files (serial rest) := by
  rw [serial, List.flatMap_cons, advanceAll, List.foldl_append]
  rfl

/-- Files of the wave whose pipelines have not taken a step. -/
structure Waits (files : FileMutations) (p : Progress φ) (l : List (String × List Mutation)) :
    Prop where
  nodup : (l.map Prod.fst).Nodup
  known : ∀ e ∈ l, files.get? e.1 = some e.2
  waiting : ∀ e ∈ l, p.stage e.1 = .waiting

namespace Waits

variable {rest : List (String × List Mutation)} (h : Waits files p ((name, ms) :: rest))

include h

/-- The first of the files goes through. -/
theorem advanceAll_head : p.advanceAll files [name, name, name]
    = ⟨(p.workspace.applyFile name ms).2.1,
      Function.update p.stage name (.done (p.workspace.applyFile name ms).1),
      p.log ++ (p.workspace.applyFile name ms).2.2⟩ :=
  advance_thrice (h.known _ List.mem_cons_self) (h.waiting _ List.mem_cons_self)

/-- The others still wait when the first of the files is done. -/
theorem tail : Waits files (p.advanceAll files [name, name, name]) rest := by
  obtain ⟨hname, hrest⟩ := List.nodup_cons.1 h.nodup
  refine ⟨hrest, fun e he => h.known e (List.mem_cons_of_mem _ he), ?_⟩
  intro e he
  have hne : e.1 ∉ [name, name, name] := by
    have hmem : e.1 ∈ rest.map Prod.fst := List.mem_map_of_mem he
    intro heq
    simp only [List.mem_cons, List.not_mem_nil, or_false, or_self] at heq
    exact hname (heq ▸ hmem)
  rw [stage_advanceAll_of_not_mem hne]
  exact h.waiting e (List.mem_cons_of_mem _ he)

/-- What the first of the files has come to is not changed by the others. -/
theorem stage_head : (p.advanceAll files (serial ((name, ms) :: rest))).stage name
    = .done (p.workspace.applyFile name ms).1 := by
  have hname : name ∉ serial rest := mem_serial.not.2 (List.nodup_cons.1 h.nodup).1
  rw [advanceAll_serial_cons, stage_advanceAll_of_not_mem hname, h.advanceAll_head]
  exact Function.update_self _ _ _

end Waits

variable {l : List (String × List Mutation)}

theorem workspace_serial (h : Waits files p l) :
    (p.advanceAll files (serial l)).workspace = (p.workspace.applyFiles l).2.1 := by
  induction l generalizing p with
  | nil => rfl
  | cons e rest ih =>
    obtain ⟨name, ms⟩ := e
    rw [advanceAll_serial_cons, ih h.tail, h.advanceAll_head, Workspace.applyFiles_cons]

theorem log_serial (h : Waits files p l) :
    (p.advanceAll files (serial l)).log = p.log ++ (p.workspace.applyFiles l).2.2 := by
  induction l generalizing p with
  | nil => exact (List.append_nil _).symm
  | cons e rest ih =>
    obtain ⟨name, ms⟩ := e
    rw [advanceAll_serial_cons, ih h.tail, h.advanceAll_head, Workspace.log_cons,
      List.append_assoc]

theorem failures_serial (h : Waits files p l) :
    (p.advanceAll files (serial l)).failures l = (p.workspace.applyFiles l).1 := by
  induction l generalizing p with
  | nil => rfl
  | cons e rest ih =>
    obtain ⟨name, ms⟩ := e
    have hrest := ih h.tail
    rw [h.advanceAll_head] at hrest
    rw [failures, List.filterMap_cons, h.stage_head, Workspace.failures_cons, ← hrest,
      advanceAll_serial_cons, h.advanceAll_head]
    cases (p.workspace.applyFile name ms).1 <;> rfl

omit [FileAccess φ] in
/-- At the start all files of a wave wait. -/
theorem waits_start (files : FileMutations) (w : Workspace φ) :
    Waits files (start w) files.entries :=
  ⟨files.nodup_keys, fun _ => Dict.mem_entries_iff.1, fun _ _ => rfl⟩

/-- A wave goes through its files one after the other. -/
theorem apply_serial (files : FileMutations) (w : Workspace φ) :
    let p := (start w).advanceAll files (serial files.entries)
    let reports := (p.failures files.entries).map (fun f => Entry.failed f.1 f.2)
    w.apply files
      = (p.outcome files, p.workspace, .applyBegin files :: p.log ++ .applyEnd files :: reports) := by
  intro p reports
  have hworkspace : p.workspace = (w.applyFiles files.entries).2.1 :=
    workspace_serial (waits_start files w)
  have hfailures : p.failures files.entries = (w.applyFiles files.entries).1 :=
    failures_serial (waits_start files w)
  have hlog : p.log = (w.applyFiles files.entries).2.2 := log_serial (waits_start files w)
  have hreports : reports
      = (w.applyFiles files.entries).1.map (fun f => Entry.failed f.1 f.2) := by
    rw [← hfailures]
  rw [Workspace.apply, outcome, hworkspace, hlog, hreports, hfailures]
  rcases w.applyFiles files.entries with ⟨failures, after, log⟩
  cases failures <;> rfl

/-! ## Every schedule comes to an end -/

/-- With each of its turns a pipeline has one step less to take. -/
theorem left_advanceAll_le (h : files.get? name = some ms) (schedule : List String) :
    ((p.advanceAll files schedule).stage name).left
      ≤ (p.stage name).left - schedule.count name := by
  induction schedule generalizing p with
  | nil => exact Nat.le_refl _
  | cons k rest ih =>
    have hrest := ih (p := p.advance files k)
    show ((advanceAll files (p.advance files k) rest).stage name).left ≤ _
    by_cases hk : name = k
    · have hstep : ((p.advance files name).stage name).left ≤ (p.stage name).left - 1 := by
        rw [advance_of_some h]
        simp only [Function.update_self]
        exact p.workspace.left_step_le name ms (p.stage name)
      rw [← hk] at hrest ⊢
      rw [List.count_cons_self]
      omega
    · rw [stage_advance_of_ne hk] at hrest
      rw [List.count_cons_of_ne (Ne.symm hk)]
      exact hrest

/-- Three turns for each pipeline are enough, whatever happens in between. -/
theorem finished_advanceAll {schedule : List String}
    (hturns : ∀ name ∈ files.keys, 3 ≤ schedule.count name) :
    (p.advanceAll files schedule).Finished files := by
  intro name hname
  obtain ⟨ms, hms⟩ := Dict.mem_keys_iff.1 hname
  have hleft := left_advanceAll_le (p := p) hms schedule
  have hstart := (p.stage name).left_le
  have hcount := hturns name hname
  exact Stage.eq_done_of_left_eq_zero (by omega)

end Progress

end EditWaves
