import EditWaves.Proofs.Resolver.Transparency
import EditWaves.Proofs.Workspace.Steps

/-!
# What a listener is told of a wave

While the pipelines of a wave take their steps, in whatever order, a listener is told of mutations
that are applied and of mutations that are skipped.  Which ones were applied to a file can be said
from what was read of it alone, and afterwards the files that failed are listed.

* `gets_mutateAll`: the mutations of a file are applied up to the first fault.
* `Stage.Follows`, `follows_step`: what has been told of a file at each stage of its pipeline.
* `follows_advanceAll`: the turns of other pipelines do not matter.
* `waveReport_advanceAll`: the report of a wave whose pipelines are done.
-/

namespace EditWaves

/-! ## The mutations in a log -/

/-- The mutation that an entry says was applied to a file. -/
def Entry.appliedTo? (name : String) : Entry → Option Mutation
  | .applied file m => if file = name then some m else none
  | _ => none

/-- The mutations that a log says were applied to a file, in order. -/
def Log.appliedTo (name : String) (log : Log) : List Mutation :=
  log.filterMap (Entry.appliedTo? name)

@[simp] theorem Log.appliedTo_append (name : String) (l₁ l₂ : Log) :
    Log.appliedTo name (l₁ ++ l₂) = Log.appliedTo name l₁ ++ Log.appliedTo name l₂ :=
  List.filterMap_append

/-- A listener is told of all mutations that are applied. -/
theorem Log.appliedTo_events (name : String) (log : Log) :
    Log.appliedTo name (Log.events log) = Log.appliedTo name log := by
  rw [Log.events, Log.appliedTo, List.filterMap_filter]
  refine List.filterMap_congr ?_
  intro e _
  cases e <;> rfl

/-- An entry about a file: a note, or a mutation that was skipped or applied to the file. -/
def Entry.About (name : String) (e : Entry) : Prop :=
  e.isNote = true ∨ (∃ m, e = .unknown m) ∨ ∃ m, e = .applied name m

theorem Entry.eq_applied_of_appliedTo? {name : String} {e : Entry} {m : Mutation}
    (h : e.appliedTo? name = some m) : e = .applied name m := by
  unfold Entry.appliedTo? at h
  split at h
  next file k =>
    split at h
    next hfile =>
      rw [hfile, Option.some.inj h]
    next => cases h
  next => cases h

/-- Nothing is applied to other files. -/
theorem Entry.About.appliedTo?_of_ne {name k : String} {e : Entry} (h : e.About name)
    (hk : k ≠ name) : e.appliedTo? k = none := by
  cases happlied : e.appliedTo? k with
  | none => rfl
  | some m =>
    obtain rfl := Entry.eq_applied_of_appliedTo? happlied
    obtain hnote | ⟨_, hunknown⟩ | ⟨_, heq⟩ := h
    · cases hnote
    · cases hunknown
    · cases heq
      exact absurd rfl hk

/-- A log of what happens to one file. -/
def Log.About (name : String) (log : Log) : Prop := ∀ e ∈ log, e.About name

namespace Log.About

variable {name k : String} {log l₁ l₂ : Log}

theorem nil : Log.About name [] := List.forall_mem_nil _

theorem append (h₁ : Log.About name l₁) (h₂ : Log.About name l₂) : Log.About name (l₁ ++ l₂) :=
  List.forall_mem_append.2 ⟨h₁, h₂⟩

theorem appliedTo_of_ne (h : Log.About name log) (hk : k ≠ name) : Log.appliedTo k log = [] :=
  List.filterMap_eq_nil_iff.2 (fun e he => (h e he).appliedTo?_of_ne hk)

end Log.About

theorem Log.OfLookups.about {log : Log} (h : Log.OfLookups log) (name : String) :
    Log.About name log := by
  intro e he
  obtain ⟨tag, rfl⟩ | ⟨m, rfl⟩ := h e he
  · exact .inl rfl
  · exact .inr (.inl ⟨m, rfl⟩)

/-- When tags are looked up nothing is applied. -/
theorem Log.OfLookups.appliedTo {log : Log} (h : Log.OfLookups log) (name : String) :
    Log.appliedTo name log = [] := by
  refine List.filterMap_eq_nil_iff.2 ?_
  intro e he
  obtain ⟨tag, rfl⟩ | ⟨m, rfl⟩ := h e he <;> rfl

theorem about_dropNotes (name : String) (ms : List Mutation) : Log.About name (dropNotes ms) := by
  intro e he
  obtain ⟨d, -, rfl⟩ := List.mem_map.1 he
  exact .inl rfl

theorem about_mutateAll (r : Resolver) (name contents : String) (ms : List Mutation) :
    Log.About name (mutateAll r name contents ms).log := by
  induction ms generalizing r contents with
  | nil => exact .nil
  | cons m rest ih =>
    have hdispatch := (r.ofLookups_dispatch contents m).about name
    rw [mutateAll]
    cases hd : (r.dispatch contents m).result with
    | error fault => exact hdispatch
    | ok text => exact hdispatch.append (List.forall_mem_cons.2 ⟨.inr (.inr ⟨m, rfl⟩), ih _ text⟩)

/-! ## How far the mutations of a file get -/

/-- Mutations that are applied one after another get as far as to the first fault: which of them
were applied, and what comes of it. -/
inductive Lookup.Gets (find : Lookup) (contents : String) :
    List Mutation → List Mutation → Except MutationError String → Prop where
  | whole {ms : List Mutation} {text : String} (h : find.applyEach contents ms = .ok text) :
      Gets find contents ms ms (.ok text)
  | part {front back : List Mutation} {m : Mutation} {text : String} {fault : MutationError}
      (hfront : find.applyEach contents front = .ok text)
      (hfault : (find.dispatch text m).result = .error fault) :
      Gets find contents (front ++ m :: back) front (.error fault)

theorem Lookup.Gets.cons {find : Lookup} {contents text : String} {m : Mutation}
    {ms applied : List Mutation} {result : Except MutationError String}
    (hm : (find.dispatch contents m).result = .ok text) (h : find.Gets text ms applied result) :
    find.Gets contents (m :: ms) (m :: applied) result := by
  cases h with
  | whole htext => exact .whole ((Lookup.applyEach_cons_ok hm _).trans htext)
  | part hfront hfault =>
    have hcons : find.applyEach contents (m :: applied) = _ :=
      (Lookup.applyEach_cons_ok hm _).trans hfront
    exact .part hcons hfault

/-- The mutations of a file are reported up to the first fault. -/
theorem gets_mutateAll (r : Resolver) (name contents : String) (ms : List Mutation) :
    r.lookup.Gets contents ms (Log.appliedTo name (mutateAll r name contents ms).log)
      (mutateAll r name contents ms).result := by
  induction ms generalizing r contents with
  | nil => exact .whole rfl
  | cons m rest ih =>
    have hnone := (r.ofLookups_dispatch contents m).appliedTo name
    have hresult := r.result_dispatch contents m
    rw [mutateAll]
    cases hd : (r.dispatch contents m).result with
    | error fault =>
      have hfault : (r.lookup.dispatch contents m).result = .error fault := hresult.symm.trans hd
      simp only [hnone, hd]
      exact .part (Lookup.applyEach_nil _ _) hfault
    | ok text =>
      have hok : (r.lookup.dispatch contents m).result = .ok text := hresult.symm.trans hd
      have hrest := ih (r.dispatch contents m).resolver text
      rw [(r.agrees_dispatch contents m).lookup] at hrest
      simp only [Log.appliedTo_append, hnone, List.nil_append]
      have happlied : ∀ log : Log, Log.appliedTo name (.applied name m :: log)
          = m :: Log.appliedTo name log := by
        intro log
        exact List.filterMap_cons_some (if_pos rfl)
      rw [happlied]
      exact hrest.cons hok

/-! ## What is told of a file -/

/-- What is told of a file: the mutations that are reported as applied, when its contents or a
fault were read and its pipeline has come to an end. -/
inductive FileReport (find : Lookup) (ms : List Mutation) :
    Except FileError String → List Mutation → Except FileError String → Prop where
  /-- Nothing is applied to a file that cannot be read. -/
  | unreadable (e : FileError) : FileReport find ms (.error e) [] (.error e)
  /-- Of the mutations that are kept those before the first fault are applied. -/
  | faulty {contents text : String} {front back : List Mutation} {m : Mutation}
      {fault : MutationError} (hkept : Mutation.sweep ms = front ++ m :: back)
      (hfront : find.applyEach contents front = .ok text)
      (hfault : (find.dispatch text m).result = .error fault) :
      FileReport find ms (.ok contents) front (.error (.mutation fault))
  /-- If there is none, all that are kept are applied, whatever comes of the write. -/
  | edited {contents text : String} {outcome : Except FileError String}
      (hedit : find.applyEach contents (Mutation.sweep ms) = .ok text)
      (hwrite : ∀ written, outcome = .ok written → written = text) :
      FileReport find ms (.ok contents) (Mutation.sweep ms) outcome

/-- What has been told of a file whose pipeline has come to a stage, if this is what it reads. -/
def Stage.Follows (find : Lookup) (ms : List Mutation) (read : Except FileError String)
    (applied : List Mutation) : Stage → Prop
  | .waiting => applied = []
  | .loaded contents => read = .ok contents ∧ applied = []
  | .edited text => ∃ contents, read = .ok contents ∧
      find.applyEach contents (Mutation.sweep ms) = .ok text ∧ applied = Mutation.sweep ms
  | .done outcome => FileReport find ms read applied outcome

/-- Where a pipeline gets that applies its mutations to what was read. -/
theorem follows_edited {find : Lookup} {ms applied : List Mutation} {contents : String}
    {result : Except MutationError String}
    (h : find.Gets contents (Mutation.sweep ms) applied result) :
    (Stage.after .edited (result.mapError .mutation)).Follows find ms (.ok contents) applied := by
  generalize hkept : Mutation.sweep ms = kept at h
  cases h with
  | whole htext =>
    rw [← hkept] at htext
    exact ⟨contents, rfl, htext, hkept.symm⟩
  | part hfront hfault => exact .faulty hkept hfront hfault

variable {φ : Type} [FileAccess φ]

namespace Workspace

variable {v : Workspace φ} {name : String} {ms : List Mutation}

/-- A pipeline that has taken a step does not wait any longer. -/
theorem step_ne_waiting (s : Stage) : (v.step name ms s).1 ≠ .waiting := by
  cases s with
  | waiting =>
    show Stage.after _ (v.readContents name).1 ≠ _
    cases (v.readContents name).1 <;> exact Stage.noConfusion
  | loaded contents =>
    show Stage.after _ (v.mutateContents name contents ms).1 ≠ _
    cases (v.mutateContents name contents ms).1 <;> exact Stage.noConfusion
  | edited text => exact Stage.noConfusion
  | done outcome => exact Stage.noConfusion

theorem about_step (s : Stage) : Log.About name (v.step name ms s).2.2 := by
  cases s with
  | waiting => exact about_dropNotes name ms
  | loaded contents => exact about_mutateAll v.resolver name contents (Mutation.sweep ms)
  | edited text => exact .nil
  | done outcome => exact .nil

/-- With each step what is told of a file follows the stage of its pipeline. -/
theorem follows_step {read : Except FileError String} {applied : List Mutation} {s : Stage}
    (hread : s = .waiting → (FileAccess.read v.files name).1 = read)
    (h : s.Follows v.resolver.lookup ms read applied) :
    (v.step name ms s).1.Follows v.resolver.lookup ms read
      (applied ++ Log.appliedTo name (v.step name ms s).2.2) := by
  cases s with
  | waiting =>
    obtain rfl : applied = [] := h
    have hnotes : Log.appliedTo name (dropNotes ms) = [] := by
      refine List.filterMap_eq_nil_iff.2 ?_
      intro e he
      obtain ⟨d, -, rfl⟩ := List.mem_map.1 he
      rfl
    show (Stage.after .loaded (FileAccess.read v.files name).1).Follows _ _ _
      ([] ++ Log.appliedTo name (dropNotes ms))
    rw [hread rfl, hnotes]
    cases read with
    | error e => exact .unreadable e
    | ok contents => exact ⟨rfl, rfl⟩
  | loaded contents =>
    obtain ⟨rfl, rfl⟩ := h
    have hgets := gets_mutateAll v.resolver name contents (Mutation.sweep ms)
    show (Stage.after .edited (Except.mapError .mutation (mutateAll _ _ _ _).result)).Follows _ _ _
      ([] ++ Log.appliedTo name (mutateAll _ _ _ _).log)
    rw [List.nil_append]
    exact follows_edited hgets
  | edited text =>
    obtain ⟨contents, rfl, hedit, rfl⟩ := h
    show FileReport _ _ _ (Mutation.sweep ms ++ [])
      (Except.map _ (FileAccess.write v.files name text).1)
    rw [List.append_nil]
    refine .edited hedit ?_
    intro written hwritten
    cases hresult : (FileAccess.write v.files name text).1 with
    | error e =>
      rw [hresult] at hwritten
      cases hwritten
    | ok _ =>
      rw [hresult] at hwritten
      exact (Except.ok.inj hwritten).symm
  | done outcome =>
    show FileReport _ _ _ (applied ++ []) outcome
    rw [List.append_nil]
    exact h

end Workspace

/-! ## What is told of a wave -/

namespace Progress

variable {files : FileMutations} {p : Progress φ} {w : Workspace φ} {name : String}
  {ms : List Mutation}

/-- What has been told of a file follows the stage of its pipeline. -/
def Follows (p : Progress φ) (name : String) (ms : List Mutation)
    (read : Except FileError String) : Prop :=
  (p.stage name).Follows p.workspace.resolver.lookup ms read (Log.appliedTo name p.log)

variable {read : Except FileError String}

/-- The turn of another pipeline does not matter. -/
theorem follows_advance_of_ne {turn : String} (hturn : name ≠ turn)
    (h : p.Follows name ms read) : (p.advance files turn).Follows name ms read := by
  rw [Follows, stage_advance_of_ne hturn, lookup_advance]
  cases hks : files.get? turn with
  | none =>
    rw [advance_of_none hks]
    exact h
  | some ks =>
    have habout : Log.About turn (p.workspace.step turn ks (p.stage turn)).2.2 :=
      Workspace.about_step _
    rw [advance_of_some hks, Log.appliedTo_append, habout.appliedTo_of_ne hturn, List.append_nil]
    exact h

theorem follows_advanceAll_of_not_mem {schedule : List String} (hname : name ∉ schedule)
    (h : p.Follows name ms read) : (p.advanceAll files schedule).Follows name ms read := by
  induction schedule generalizing p with
  | nil => exact h
  | cons turn rest ih =>
    obtain ⟨hturn, hrest⟩ := List.ne_and_not_mem_of_not_mem_cons hname
    exact ih hrest (follows_advance_of_ne hturn h)

/-- The turn of the pipeline itself, which reads the file if it has been waiting. -/
theorem follows_advance_self (hms : files.get? name = some ms)
    (hread : p.stage name = .waiting → (FileAccess.read p.workspace.files name).1 = read)
    (h : p.Follows name ms read) :
    (p.advance files name).Follows name ms read ∧ (p.advance files name).stage name ≠ .waiting := by
  rw [Follows, lookup_advance, advance_of_some hms, Log.appliedTo_append]
  simp only [Function.update_self]
  exact ⟨Workspace.follows_step hread h, Workspace.step_ne_waiting _⟩

/-- A pipeline that has read its file does not read it again. -/
theorem follows_advanceAll_of_ne_waiting (hms : files.get? name = some ms)
    (hstarted : p.stage name ≠ .waiting) (h : p.Follows name ms read) (schedule : List String) :
    (p.advanceAll files schedule).Follows name ms read := by
  induction schedule generalizing p with
  | nil => exact h
  | cons turn rest ih =>
    by_cases hturn : name = turn
    · subst hturn
      obtain ⟨hself, hstill⟩ :=
        follows_advance_self hms (fun hwaiting => absurd hwaiting hstarted) h
      exact ih hstill hself
    · have hstill : (p.advance files turn).stage name ≠ .waiting := by
        rw [stage_advance_of_ne hturn]
        exact hstarted
      exact ih hstill (follows_advance_of_ne hturn h)

/-- What the pipeline of a file reads: what is there when its first turn comes. -/
def contentsRead (w : Workspace φ) (files : FileMutations) (schedule : List String)
    (name : String) : Except FileError String :=
  let p := (start w).advanceAll files (schedule.takeWhile (· ≠ name))
  (FileAccess.read p.workspace.files name).1

/-- Whatever the order of the turns, what is told of a file follows the stage of its pipeline. -/
theorem follows_advanceAll (hms : files.get? name = some ms) (schedule : List String) :
    ((start w).advanceAll files schedule).Follows name ms (contentsRead w files schedule name) := by
  have hstart : (start w).Follows name ms (contentsRead w files schedule name) := rfl
  by_cases hname : name ∈ schedule
  · obtain ⟨front, back, rfl, hfront⟩ := List.eq_append_cons_of_mem hname
    have hothers : ∀ turn ∈ front, decide (turn ≠ name) = true := by
      intro turn hturn
      exact decide_eq_true (fun heq => hfront (heq ▸ hturn))
    have hfirst : (front ++ name :: back).takeWhile (· ≠ name) = front := by
      rw [List.takeWhile_append_of_pos hothers, List.takeWhile_cons_of_neg (by simp),
        List.append_nil]
    have hwaiting : ((start w).advanceAll files front).Follows name ms _ :=
      follows_advanceAll_of_not_mem hfront hstart
    obtain ⟨hself, hstarted⟩ := follows_advance_self hms
      (fun _ => by rw [contentsRead, hfirst]) hwaiting
    rw [advanceAll, List.foldl_append, List.foldl_cons]
    exact follows_advanceAll_of_ne_waiting hms hstarted hself back
  · exact follows_advanceAll_of_not_mem hname hstart

/-! ## Waves that are done -/

/-- The log of a wave is about its files. -/
theorem about_of_mem_advanceAll (schedule : List String)
    (hp : ∀ e ∈ p.log, ∃ name ∈ files.keys, e.About name) :
    ∀ e ∈ (p.advanceAll files schedule).log, ∃ name ∈ files.keys, e.About name := by
  induction schedule generalizing p with
  | nil => exact hp
  | cons turn rest ih =>
    refine ih ?_
    cases hks : files.get? turn with
    | none =>
      rw [advance_of_none hks]
      exact hp
    | some ks =>
      rw [advance_of_some hks]
      refine List.forall_mem_append.2 ⟨hp, ?_⟩
      intro e he
      exact ⟨turn, Dict.mem_keys_iff.2 ⟨ks, hks⟩, Workspace.about_step _ e he⟩

/-- What a listener is told of a wave whose pipelines took their steps in the order of a
schedule. -/
structure WaveReport (w : Workspace φ) (files : FileMutations) (schedule : List String)
    (p : Progress φ) : Prop where
  /-- Before the end of the wave it is told of nothing but mutations. -/
  only : ∀ e ∈ Log.events p.log, (∃ file m, e = .applied file m) ∨ ∃ m, e = .unknown m
  /-- Those that were applied to a file are what its pipeline has come to. -/
  file : ∀ name ms, files.get? name = some ms → ∃ outcome, p.stage name = .done outcome ∧
    FileReport w.resolver.lookup ms (contentsRead w files schedule name)
      (Log.appliedTo name (Log.events p.log)) outcome
  /-- None is applied to a file that is not in the wave. -/
  others : ∀ name, files.get? name = none → Log.appliedTo name (Log.events p.log) = []
  /-- At the end the files are listed whose pipelines failed, -/
  failed : ∀ name e, (name, e) ∈ p.failures files.entries ↔
    name ∈ files.keys ∧ p.stage name = .done (.error e)
  /-- each once and in ascending order. -/
  ascending : ((p.failures files.entries).map Prod.fst).Pairwise (· < ·)

theorem waveReport_advanceAll (schedule : List String)
    (hdone : ((start w).advanceAll files schedule).Finished files) :
    WaveReport w files schedule ((start w).advanceAll files schedule) := by
  have habout : ∀ e ∈ ((start w).advanceAll files schedule).log,
      ∃ name ∈ files.keys, e.About name :=
    about_of_mem_advanceAll schedule (List.forall_mem_nil _)
  refine ⟨?_, ?_, ?_, fun _ _ => mem_failures_iff, ?_⟩
  · intro e he
    obtain ⟨hlog, hevent⟩ := List.mem_filter.1 he
    obtain ⟨name, -, hnote | ⟨m, rfl⟩ | ⟨m, rfl⟩⟩ := habout e hlog
    · rw [hnote] at hevent
      cases hevent
    · exact .inr ⟨m, rfl⟩
    · exact .inl ⟨name, m, rfl⟩
  · intro name ms hms
    obtain ⟨outcome, hstage⟩ := hdone name (Dict.mem_keys_iff.2 ⟨ms, hms⟩)
    have hfollows := follows_advanceAll (w := w) hms schedule
    rw [Progress.Follows, hstage, lookup_advanceAll, ← Log.appliedTo_events] at hfollows
    exact ⟨outcome, hstage, hfollows⟩
  · intro name hnone
    rw [Log.appliedTo_events]
    refine List.filterMap_eq_nil_iff.2 ?_
    intro e he
    obtain ⟨k, hk, habout⟩ := habout e he
    refine habout.appliedTo?_of_ne ?_
    rintro rfl
    obtain ⟨ms, hms⟩ := Dict.mem_keys_iff.1 hk
    rw [hnone] at hms
    cases hms
  · exact files.pairwise_keys.sublist (names_failures_sublist files.entries)

end Progress

end EditWaves
