import EditWaves.Proofs.Dict.Lookup
import EditWaves.Proofs.Run.Calls
import EditWaves.Proofs.Workspace.Pipeline
import EditWaves.Source

/-!
# The results of a run

A run collects the names of the files that were mutated and of those that failed while it
goes.  Both lists say something about the whole history of applied waves, which is recorded
here from within the world as the calls of a run are.

* `files_history`: the history is that of the waves that the run applies.
* `accounts_step`: what one round adds to the names is what it adds to the history.
* `closes_start`: how a run ends.
* `run_results`: the two lists in terms of the history.
-/

namespace EditWaves

/-! ## The history of a run -/

/-- A wave that has been applied and what came of it. -/
structure AppliedWave where
  files : FileMutations
  outcome : Except ApplyError Unit

namespace AppliedWave

/-- The files of the wave that failed. -/
def failedNames (a : AppliedWave) : List String :=
  match a.outcome with
  | .ok () => []
  | .error e => e.fileNames

/-- The wave has a file, and it did not fail. -/
def Mutated (a : AppliedWave) (name : String) : Prop :=
  name ∈ a.files.keys ∧ name ∉ a.failedNames

end AppliedWave

variable {σ : Type}

/-- An applier that writes down what becomes of the waves. -/
def Applier.chronicled (a : Applier σ) : Applier (σ × List AppliedWave) where
  apply s files :=
    let (outcome, own, log) := a.apply s.1 files
    (outcome, (own, s.2 ++ [⟨files, outcome⟩]), log)

/-- Settings under which a run writes down what becomes of its waves. -/
def RunSettings.chronicled (settings : RunSettings σ) : RunSettings (σ × List AppliedWave) :=
  ⟨settings.provider.first, settings.applier.chronicled, settings.waves, settings.onFileError⟩

namespace Run

/-- The waves that a run has applied, in order. -/
def history (settings : RunSettings σ) (budget : Nat) (world : σ) : List AppliedWave :=
  (start settings.chronicled budget (world, [])).state.world.2

theorem simulates_chronicled (settings : RunSettings σ) :
    Simulates Prod.fst settings.chronicled settings :=
  ⟨fun _ => rfl, fun _ _ => rfl, rfl, rfl⟩

/-- A run with its history is the run itself. -/
theorem start_chronicled (settings : RunSettings σ) (budget : Nat) (world : σ) :
    (start settings.chronicled budget (world, [])).map Prod.fst = start settings budget world :=
  ((simulates_chronicled settings).go budget (.start (world, []))).symm

/-- The waves among the calls so far are those of the history. -/
def Chronicles (s : (σ × List AppliedWave) × List Call) : Prop :=
  s.1.2.map AppliedWave.files = s.2.filterMap Call.files?

variable {settings : RunSettings σ} {s : (σ × List AppliedWave) × List Call}

theorem chronicles_provide (hs : Chronicles s) :
    Chronicles (settings.chronicled.recorded.provider.provide s).2 := by
  show s.1.2.map AppliedWave.files = (s.2 ++ [Call.provide]).filterMap Call.files?
  rw [List.filterMap_append, hs]
  exact (List.append_nil _).symm

theorem chronicles_apply (files : FileMutations) (hs : Chronicles s) :
    Chronicles (settings.chronicled.recorded.applier.apply s files).2.1 := by
  show (s.1.2 ++ [AppliedWave.mk files _]).map AppliedWave.files
    = (s.2 ++ [Call.apply files]).filterMap Call.files?
  rw [List.map_append, hs, List.filterMap_append]
  rfl

/-- A run with its history and its calls. -/
def tracked (settings : RunSettings σ) (budget : Nat) (world : σ) :
    Ended ((σ × List AppliedWave) × List Call) :=
  start settings.chronicled.recorded budget ((world, []), [])

variable (settings)

/-- A run that is tracked is the run itself. -/
theorem start_tracked (budget : Nat) (world : σ) :
    (tracked settings budget world).map (fun s => s.1.1) = start settings budget world := by
  have hsimulates : Simulates (fun s => s.1.1) settings.chronicled.recorded settings :=
    ⟨fun _ => rfl, fun _ _ => rfl, rfl, rfl⟩
  exact (hsimulates.go budget (.start ((world, []), []))).symm

/-- It has the history of the run. -/
theorem history_tracked (budget : Nat) (world : σ) :
    (tracked settings budget world).state.world.1.2 = history settings budget world := by
  rw [history, ← start_recorded settings.chronicled budget (world, []) []]
  rfl

/-- It has the calls of the run. -/
theorem calls_tracked (budget : Nat) (world : σ) :
    (tracked settings budget world).state.world.2 = calls settings budget world := by
  have hsimulates :
      Simulates (fun s => (s.1.1, s.2)) settings.chronicled.recorded settings.recorded :=
    ⟨fun _ => rfl, fun _ _ => rfl, rfl, rfl⟩
  rw [calls]
  exact congrArg (fun e => e.state.world.2)
    (hsimulates.go budget (.start ((world, []), []))).symm

/-- The history is that of the waves that are given to the applier. -/
theorem files_history (budget : Nat) (world : σ) :
    (history settings budget world).map AppliedWave.files = applied settings budget world := by
  have hboth : Chronicles (tracked settings budget world).state.world :=
    world_invariant (fun _ => chronicles_provide) (fun _ => chronicles_apply) rfl
  rw [← history_tracked, applied, ← calls_tracked]
  exact hboth

/-! ## What the two lists say -/

/-- The names that a run has collected are those of its history. -/
structure Tells (s : State (σ × List AppliedWave)) : Prop where
  mutated (name : String) : name ∈ s.mutated.keys ↔ ∃ a ∈ s.world.2, a.Mutated name
  failed (name : String) : name ∈ s.failed.keys ↔ ∃ a ∈ s.world.2, name ∈ a.failedNames

theorem mem_keys_addNames {set : Dict Unit} {names : List String} {name : String} :
    name ∈ (addNames set names).keys ↔ name ∈ set.keys ∨ name ∈ names := by
  induction names generalizing set with
  | nil => simp [addNames]
  | cons n names ih =>
    show name ∈ (addNames (set.insert n ()) names).keys ↔ _
    rw [ih, Dict.mem_keys_insert, List.mem_cons]
    tauto

/-- Recording a wave together with what became of it. -/
theorem Tells.record {s t : State (σ × List AppliedWave)} (hs : Tells s) (a : AppliedWave)
    (hworld : t.world.2 = s.world.2 ++ [a])
    (hmutated : t.mutated
      = addNames s.mutated (a.files.keys.filter (fun n => !a.failedNames.contains n)))
    (hfailed : t.failed = addNames s.failed a.failedNames) : Tells t := by
  refine ⟨?_, ?_⟩
  · intro name
    have hmem : name ∈ a.files.keys.filter (fun n => !a.failedNames.contains n) ↔ a.Mutated name := by
      simp [AppliedWave.Mutated]
    rw [hmutated, mem_keys_addNames, hs.mutated, hmem, hworld]
    simp [or_and_right, exists_or]
  · intro name
    rw [hfailed, mem_keys_addNames, hs.failed, hworld]
    simp [or_and_right, exists_or]

/-- How a run ends: with the names that it has collected, unless it could not go on at all.
If files that failed stop it, theirs is the last wave. -/
def Closes (outcome : Except RunError Results) (s : State (σ × List AppliedWave)) : Prop :=
  match outcome with
  | .ok r => r = s.results ∧ Tells s
  | .error (.aborted source r) =>
    r = s.results ∧ Tells s ∧ ∃ past files, s.world.2 = past ++ [⟨files, .error source⟩]
  | .error (.provider _) | .error (.apply _) => True

/-- A step keeps account of the history. -/
def Accounts : Step (σ × List AppliedWave) → Prop
  | .next s => Tells s
  | .stop outcome s => Closes outcome s

variable {settings}

theorem accounts_finish {s : State (σ × List AppliedWave)} (hs : Tells s) :
    Accounts (finish s) :=
  ⟨rfl, hs.mutated, hs.failed⟩

theorem accounts_dryWave {s : State (σ × List AppliedWave)} (hs : Tells s) :
    Accounts (dryWave settings.chronicled s) := by
  rw [dryWave]
  split
  · exact ⟨hs.mutated, hs.failed⟩
  · exact accounts_finish hs

theorem accounts_applyWave {s : State (σ × List AppliedWave)} (hs : Tells s) (w : Wave)
    (files : FileMutations) : Accounts (applyWave settings.chronicled s w files) := by
  have happly : settings.chronicled.applier.apply s.world files
      = ((settings.applier.apply s.world.1 files).1, ((settings.applier.apply s.world.1 files).2.1,
          s.world.2 ++ [⟨files, (settings.applier.apply s.world.1 files).1⟩]),
        (settings.applier.apply s.world.1 files).2.2) := rfl
  rcases hresult : (settings.applier.apply s.world.1 files).1 with (failures | reason) | _
  · rw [hresult] at happly
    cases hpolicy : settings.chronicled.onFileError with
    | abort =>
      rw [applyWave_abort hpolicy happly]
      exact ⟨rfl, hs.record ⟨files, .error (.files failures)⟩ rfl rfl rfl, s.world.2, files, rfl⟩
    | proceed =>
      rw [applyWave_proceed hpolicy happly]
      exact hs.record ⟨files, .error (.files failures)⟩ rfl rfl rfl
  · rw [hresult] at happly
    rw [applyWave_other happly]
    trivial
  · rw [hresult] at happly
    rw [applyWave_ok happly]
    exact hs.record ⟨files, .ok ()⟩ rfl rfl rfl

/-- One round of a run keeps account of the history. -/
theorem accounts_step {s : State (σ × List AppliedWave)} (hs : Tells s) :
    Accounts (step settings.chronicled s) := by
  cases hallows : settings.chronicled.waves.allows s.wave with
  | false =>
    rw [step_capped hallows]
    exact accounts_finish hs
  | true =>
    have hasked : settings.chronicled.provider.provide s.world
        = ((settings.provider.provide s.world.1).1, (settings.provider.provide s.world.1).2,
          s.world.2) := rfl
    rcases hprovide : (settings.provider.provide s.world.1).1 with chain | w
    · rw [hprovide] at hasked
      rw [step_failed hallows hasked]
      trivial
    · rw [hprovide] at hasked
      have hprovided : Tells (s.provided ((settings.provider.provide s.world.1).2, s.world.2) w) :=
        ⟨hs.mutated, hs.failed⟩
      cases hw : w.files with
      | none =>
        rw [step_dry hallows hasked hw]
        exact accounts_dryWave hprovided
      | some files =>
        rw [step_files hallows hasked hw]
        exact accounts_applyWave hprovided w files

/-- A run that has ended has kept account of its history. -/
theorem closes_start {budget : Nat} {world : σ} {outcome : Except RunError Results}
    (hended : (start settings.chronicled budget (world, [])).outcome = some outcome) :
    Closes outcome (start settings.chronicled budget (world, [])).state := by
  have hgo : ∀ budget (s : State (σ × List AppliedWave)), Tells s →
      (go settings.chronicled budget s).outcome = some outcome →
      Closes outcome (go settings.chronicled budget s).state := by
    intro budget
    induction budget with
    | zero =>
      intro s _ h
      cases h
    | succ budget ih =>
      intro s hs h
      have hstep : Accounts (step settings.chronicled s) := accounts_step hs
      rw [go] at h ⊢
      cases hnext : step settings.chronicled s with
      | next t =>
        rw [hnext] at hstep h
        exact ih t hstep h
      | stop o t =>
        rw [hnext] at hstep h
        obtain rfl : o = outcome := Option.some.inj h
        exact hstep
  refine hgo budget _ ⟨?_, ?_⟩ hended
  · intro name
    simp [State.start, Dict.keys, Dict.empty]
  · intro name
    simp [State.start, Dict.keys, Dict.empty]

/-! ## Results -/

/-- The results with which a run ends when it comes to its end or is stopped by files that
failed. -/
def Ended.results? (e : Ended σ) : Option Results :=
  match e.outcome with
  | some (.ok r) => some r
  | some (.error (.aborted _ r)) => some r
  | _ => none

/-- Results that say exactly which files were mutated and which failed in some wave. -/
structure Summarizes (r : Results) (waves : List AppliedWave) : Prop where
  mutated_ascending : r.mutated.Pairwise (· < ·)
  failed_ascending : r.failed.Pairwise (· < ·)
  mem_mutated (name : String) : name ∈ r.mutated ↔ ∃ a ∈ waves, a.Mutated name
  mem_failed (name : String) : name ∈ r.failed ↔ ∃ a ∈ waves, name ∈ a.failedNames

theorem Tells.summarizes {s : State (σ × List AppliedWave)} (hs : Tells s) :
    Summarizes s.results s.world.2 :=
  ⟨s.mutated.pairwise_keys, s.failed.pairwise_keys, hs.mutated, hs.failed⟩

variable {budget : Nat} {world : σ} {r : Results}

theorem closes_history {outcome : Except RunError Results}
    (hended : (start settings budget world).outcome = some outcome) :
    Closes outcome (start settings.chronicled budget (world, [])).state := by
  rw [← start_chronicled] at hended
  exact closes_start hended

/-- The results of a run summarize its history. -/
theorem summarizes_history (hr : (start settings budget world).results? = some r) :
    Summarizes r (history settings budget world) := by
  rw [Ended.results?] at hr
  split at hr
  next r' hended =>
    obtain ⟨rfl, htells⟩ := closes_history hended
    rw [← Option.some.inj hr]
    exact htells.summarizes
  next source r' hended =>
    obtain ⟨rfl, htells, -⟩ := closes_history hended
    rw [← Option.some.inj hr]
    exact htells.summarizes
  next => cases hr

/-- The wave whose files stop a run is the last one that it applies. -/
theorem history_of_aborted {source : ApplyError}
    (hended : (start settings budget world).outcome = some (.error (.aborted source r))) :
    ∃ past files, history settings budget world = past ++ [⟨files, .error source⟩] :=
  (closes_history hended).2.2

/-! ## Waves of files -/

/-- An applier whose answers are those of a workspace. -/
def OverFiles (φ : Type) [FileAccess φ] (a : Applier σ) : Prop :=
  ∀ s files, ∃ w : Workspace φ, (a.apply s files).1 = (w.apply files).1

theorem overFiles_workspace {π φ : Type} [FileAccess φ] :
    OverFiles φ (Workspace.applier.second : Applier (π × Workspace φ)) :=
  fun s _ => ⟨s.2, rfl⟩

/-- In a workspace only files of the wave fail. -/
theorem mem_keys_of_mem_failedNames {φ : Type} [FileAccess φ] (w : Workspace φ)
    (files : FileMutations) {name : String}
    (hname : name ∈ (AppliedWave.mk files (w.apply files).1).failedNames) :
    name ∈ files.keys := by
  rw [AppliedWave.failedNames, Workspace.result_apply] at hname
  split at hname
  next h =>
    split at h
    next => cases hname
    next => cases h
  next e h =>
    split at h
    next => cases h
    next =>
      cases h
      exact (w.failures_sublist files.entries).mem hname

/-- Only files of their waves have failed so far. -/
def FailsOwnFiles (s : σ × List AppliedWave) : Prop :=
  ∀ a ∈ s.2, ∀ name ∈ a.failedNames, name ∈ a.files.keys

theorem failsOwnFiles_apply {φ : Type} [FileAccess φ] (hfiles : OverFiles φ settings.applier)
    {s : σ × List AppliedWave} (files : FileMutations) (hs : FailsOwnFiles s) :
    FailsOwnFiles (settings.chronicled.applier.apply s files).2.1 := by
  intro a ha
  rcases List.mem_append.1 ha with ha | ha
  · exact hs a ha
  · obtain rfl := List.mem_singleton.1 ha
    obtain ⟨w, hw⟩ := hfiles s.1 files
    rw [hw]
    exact fun name => mem_keys_of_mem_failedNames w files

theorem failsOwnFiles_history {φ : Type} [FileAccess φ] (hfiles : OverFiles φ settings.applier) :
    ∀ a ∈ history settings budget world, ∀ name ∈ a.failedNames, name ∈ a.files.keys := by
  have hends : FailsOwnFiles (start settings.chronicled budget (world, [])).state.world :=
    world_invariant (fun _ hs => hs) (fun _ files => failsOwnFiles_apply hfiles files)
      (fun _ ha => by cases ha)
  exact hends

/-- Whatever provides and applies its waves, when a run ends with results they are exact: the
files that were mutated are those that some applied wave has and that did not fail in it, and
the files that failed are those of all applied waves together.  A wave whose files stop the
run counts, and is the last.  If the waves are applied to the files of a workspace, the two
lists together are all files of the applied waves, and a file is in both if it was mutated in
one wave and failed in another. -/
theorem run_results {σ : Type} (settings : RunSettings σ) (budget : Nat) (world : σ) :
    let ended := start settings budget world
    let waves := history settings budget world
    waves.map AppliedWave.files = applied settings budget world ∧
    (∀ r, ended.results? = some r → Summarizes r waves) ∧
    (∀ source r, ended.outcome = some (.error (.aborted source r)) →
      ∃ past files, waves = past ++ [⟨files, .error source⟩]) ∧
    (∀ (φ : Type) [FileAccess φ], OverFiles φ settings.applier →
      ∀ r, ended.results? = some r → ∀ name,
      (name ∈ r.mutated ∨ name ∈ r.failed ↔ ∃ a ∈ waves, name ∈ a.files.keys) ∧
      (name ∈ r.mutated ∧ name ∈ r.failed ↔ ∃ i j : Fin waves.length, i ≠ j ∧
        (waves.get i).Mutated name ∧ name ∈ (waves.get j).failedNames)) := by
  intro ended waves
  refine ⟨files_history settings budget world, fun r => summarizes_history,
    fun source r => history_of_aborted, ?_⟩
  intro φ _ hfiles r hr name
  have hsummary : Summarizes r waves := summarizes_history hr
  have hsubset : ∀ a ∈ waves, ∀ name ∈ a.failedNames, name ∈ a.files.keys :=
    failsOwnFiles_history hfiles
  rw [hsummary.mem_mutated, hsummary.mem_failed]
  refine ⟨⟨?_, ?_⟩, ⟨?_, ?_⟩⟩
  · rintro (⟨a, ha, hname, -⟩ | ⟨a, ha, hname⟩)
    · exact ⟨a, ha, hname⟩
    · exact ⟨a, ha, hsubset a ha name hname⟩
  · rintro ⟨a, ha, hname⟩
    by_cases hfailed : name ∈ a.failedNames
    · exact .inr ⟨a, ha, hfailed⟩
    · exact .inl ⟨a, ha, hname, hfailed⟩
  · rintro ⟨⟨a, ha, hmutated⟩, b, hb, hfailed⟩
    obtain ⟨i, rfl⟩ := List.mem_iff_get.1 ha
    obtain ⟨j, rfl⟩ := List.mem_iff_get.1 hb
    refine ⟨i, j, ?_, hmutated, hfailed⟩
    rintro rfl
    exact hmutated.2 hfailed
  · rintro ⟨i, j, -, hmutated, hfailed⟩
    exact ⟨⟨_, waves.get_mem i, hmutated⟩, _, waves.get_mem j, hfailed⟩

/-- Two waves, in the first of which the read of a file is refused that the second has again. -/
theorem run_results_two_waves :
    let first : FileMutations := .ofList [("a.txt", []), ("b.txt", [])]
    let second : FileMutations := .ofList [("b.txt", [])]
    let files : Store := ⟨.ofList [("a.txt", .new "one" [] []), ("b.txt", .new "two" [0] [])]⟩
    let settings : RunSettings (List Wave × Workspace Store) :=
      ⟨Source.queue.first, Workspace.applier.second, ⟨0, none⟩, .proceed⟩
    let world := ([⟨some first⟩, ⟨some second⟩], Workspace.new files .builtins)
    OverFiles Store settings.applier ∧
      (start settings 3 world).results? = some ⟨["a.txt", "b.txt"], ["b.txt"]⟩ ∧
      Summarizes ⟨["a.txt", "b.txt"], ["b.txt"]⟩ (history settings 3 world) ∧
      ∃ i j : Fin (history settings 3 world).length, i ≠ j ∧
        ((history settings 3 world).get i).Mutated "b.txt" ∧
        "b.txt" ∈ ((history settings 3 world).get j).failedNames := by
  intro first second files settings world
  have hfiles : OverFiles Store settings.applier := overFiles_workspace
  have hr : (start settings 3 world).results? = some ⟨["a.txt", "b.txt"], ["b.txt"]⟩ := rfl
  obtain ⟨-, hsummary, -, hnames⟩ := run_results settings 3 world
  exact ⟨hfiles, hr, hsummary _ hr, (hnames Store hfiles _ hr "b.txt").2.1 ⟨by decide, by decide⟩⟩

end Run

end EditWaves
