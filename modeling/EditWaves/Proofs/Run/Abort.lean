import EditWaves.Proofs.Run.Blocks

/-!
# Runs that stop when files fail

Up to the first wave of which files fail it makes no difference whether a run is to stop then or
to go on.  A run that is to stop has then done what the other one does that takes no more waves
than these, except for reporting that it has come to its end.

* `step_answering_of_fine`, `step_answering_of_failed`: one round, under both policies.
* `go_answering_of_fine`, `tracked_answering_of_fine`: no file fails, and nothing tells the two
  apart.
* `go_upTo`: a bound that has not been reached makes no difference.
* `abort_prefix`: the two runs as a whole.
-/

namespace EditWaves

variable {σ : Type}

/-- The settings with another policy for files that fail. -/
def RunSettings.answering (settings : RunSettings σ) (policy : FileErrorPolicy) : RunSettings σ :=
  { settings with onFileError := policy }

/-- The settings with another maximum of waves. -/
def RunSettings.upTo (settings : RunSettings σ) (n : Nat) : RunSettings σ :=
  { settings with waves := ⟨settings.waves.minimum, some n⟩ }

/-- Files of the wave failed. -/
def AppliedWave.FilesFailed (a : AppliedWave) : Prop :=
  ∃ failures, a.outcome = .error (.files failures)

namespace Run

variable {settings : RunSettings σ} {s t : State σ} {a : AppliedWave}
  {files : FileMutations}

/-! ## One round -/

/-- The wave that a round applies, if it gets so far, and what comes of it. -/
def waveOf (settings : RunSettings σ) (s : State σ) : Option AppliedWave :=
  (blockOf settings s).bind (Block.applied? settings)

/-- A round that applies a wave has been offered it. -/
theorem waveOf_eq_some (hwave : waveOf settings s = some a) :
    settings.waves.allows s.wave = true ∧ ∃ world,
      settings.provider.provide s.world = (.ok ⟨some a.files⟩, world) ∧
        a.outcome = (settings.applier.apply world a.files).1 := by
  obtain ⟨_ | ⟨files, world⟩, hblock, happlied⟩ := Option.bind_eq_some_iff.1 hwave
  · cases happlied
  · cases happlied
    obtain ⟨hallows, hprovide⟩ := blockOf_eq_wave_iff.1 hblock
    exact ⟨hallows, world, hprovide, rfl⟩

/-- A wave of which no files fail is treated alike under both policies. -/
theorem applyWave_answering {w : Wave} {files : FileMutations}
    (hfine : ∀ failures, (settings.applier.apply s.world files).1 ≠ .error (.files failures))
    (p q : FileErrorPolicy) :
    applyWave (settings.answering p) s w files = applyWave (settings.answering q) s w files := by
  rcases happly : settings.applier.apply s.world files with ⟨outcome, world, log⟩
  rw [happly] at hfine
  have hp : (settings.answering p).applier.apply s.world files = (outcome, world, log) := happly
  have hq : (settings.answering q).applier.apply s.world files = (outcome, world, log) := happly
  rcases outcome with (failures | reason) | _
  · exact absurd rfl (hfine failures)
  · rw [applyWave_other hp, applyWave_other hq]
  · rw [applyWave_ok hp, applyWave_ok hq]

/-- So is a round in which no files fail. -/
theorem step_answering_of_fine (hfine : ∀ a, waveOf settings s = some a → ¬ a.FilesFailed)
    (p q : FileErrorPolicy) :
    step (settings.answering p) s = step (settings.answering q) s := by
  cases hallows : settings.waves.allows s.wave with
  | false =>
    have hp : (settings.answering p).waves.allows s.wave = false := hallows
    have hq : (settings.answering q).waves.allows s.wave = false := hallows
    rw [step_capped hp, step_capped hq]
  | true =>
    have hp : (settings.answering p).waves.allows s.wave = true := hallows
    have hq : (settings.answering q).waves.allows s.wave = true := hallows
    rcases hprovide : settings.provider.provide s.world with ⟨provided, world⟩
    have hpp : (settings.answering p).provider.provide s.world = (provided, world) := hprovide
    have hqq : (settings.answering q).provider.provide s.world = (provided, world) := hprovide
    rcases provided with chain | ⟨_ | files⟩
    · rw [step_failed hp hpp, step_failed hq hqq]
    · rw [step_dry hp hpp rfl, step_dry hq hqq rfl]
      rfl
    · rw [step_files hp hpp rfl, step_files hq hqq rfl]
      have hwave : waveOf settings s = some ⟨files, (settings.applier.apply world files).1⟩ := by
        rw [waveOf, blockOf_files hallows hprovide]
        rfl
      refine applyWave_answering ?_ p q
      intro failures houtcome
      exact hfine _ hwave ⟨failures, houtcome⟩

/-- A round in which files fail: a run that is to stop then does so, and one that is to go on goes
on from there. -/
theorem step_answering_of_failed {failures : List (String × FileError)}
    (hwave : waveOf settings s = some ⟨files, .error (.files failures)⟩) :
    ∃ t, step (settings.answering .abort) s
        = .stop (.error (.aborted (.files failures) t.results)) t ∧
      step (settings.answering .proceed) s
        = .next { t with wave := t.wave + 1, log := t.log ++ [.continuing (.files failures)] } ∧
      t.world = (settings.applier.apply (settings.provider.provide s.world).2 files).2.1 := by
  obtain ⟨hallows, world, hprovide, houtcome⟩ := waveOf_eq_some hwave
  have happly : settings.applier.apply world files = (.error (.files failures),
      (settings.applier.apply world files).2) := Prod.ext houtcome.symm rfl
  have hstop : step (settings.answering .abort) s = _ := step_files hallows hprovide rfl
  have hnext : step (settings.answering .proceed) s = _ := step_files hallows hprovide rfl
  rw [applyWave_abort rfl happly] at hstop
  rw [applyWave_proceed rfl happly] at hnext
  exact ⟨_, hstop, hnext, by rw [hprovide]; rfl⟩

/-! ## Below the maximum -/

/-- Each round that does not end the run has the next number. -/
theorem wave_of_step (hstep : step settings s = .next t) :
    settings.waves.allows s.wave = true ∧ t.wave = s.wave + 1 := by
  cases hallows : settings.waves.allows s.wave with
  | false =>
    rw [step_capped hallows] at hstep
    cases hstep
  | true =>
    refine ⟨rfl, ?_⟩
    rcases hprovide : settings.provider.provide s.world with ⟨provided, world⟩
    rcases provided with chain | ⟨_ | files⟩
    · rw [step_failed hallows hprovide] at hstep
      cases hstep
    · rw [step_dry hallows hprovide rfl, dryWave] at hstep
      split at hstep <;> cases hstep
      rfl
    · rw [step_files hallows hprovide rfl] at hstep
      rcases happly : settings.applier.apply world files with ⟨outcome, after, log⟩
      rcases outcome with (failures | reason) | _
      · cases hpolicy : settings.onFileError with
        | abort =>
          rw [applyWave_abort hpolicy happly] at hstep
          cases hstep
        | proceed =>
          rw [applyWave_proceed hpolicy happly] at hstep
          cases hstep
          rfl
      · rw [applyWave_other happly] at hstep
        cases hstep
      · rw [applyWave_ok happly] at hstep
        cases hstep
        rfl

/-- Below the maximum a round is what it is without one. -/
theorem step_upTo {n : Nat} (hstep : step settings s = .next t) (hn : s.wave < n) :
    step (settings.upTo n) s = .next t := by
  have hallows := (wave_of_step hstep).1
  have hbelow : (settings.upTo n).waves.allows s.wave = true := decide_eq_true hn
  rw [step, if_pos hallows] at hstep
  rw [step, if_pos hbelow]
  exact hstep

/-- Rounds below the maximum are what they are without one. -/
theorem go_upTo {m n : Nat} (hgo : go settings m s = ⟨none, t⟩) (hn : s.wave + m ≤ n) :
    go (settings.upTo n) m s = ⟨none, t⟩ ∧ t.wave = s.wave + m := by
  induction m generalizing s with
  | zero =>
    cases hgo
    exact ⟨rfl, rfl⟩
  | succ m ih =>
    rw [go] at hgo
    cases hstep : step settings s with
    | stop outcome u =>
      rw [hstep] at hgo
      cases hgo
    | next u =>
      rw [hstep] at hgo
      obtain ⟨-, hwave⟩ := wave_of_step hstep
      obtain ⟨hrest, ht⟩ := ih hgo (by omega)
      rw [go, step_upTo hstep (by omega)]
      exact ⟨hrest, by omega⟩

/-! ## The waves of a run -/

theorem keeps_tracked (settings : RunSettings σ) :
    KeepsWaves settings.chronicled.recorded (fun s => s.1.2) :=
  ⟨fun _ => rfl, fun _ _ => rfl⟩

variable {past : σ → List AppliedWave}

/-- A round adds the wave that it applies. -/
theorem KeepsWaves.step_waveOf (h : KeepsWaves settings past) (s : State σ) :
    past (Run.step settings s).state.world = past s.world ++ (waveOf settings s).toList := by
  rw [h.step, waveOf]
  cases blockOf settings s with
  | none => rfl
  | some b => simp

/-- One more round adds one wave at most. -/
theorem KeepsWaves.go_succ (h : KeepsWaves settings past) (m : Nat) (s : State σ) :
    ∃ wave : Option AppliedWave, past (go settings (m + 1) s).state.world
      = past (go settings m s).state.world ++ wave.toList := by
  rcases hgo : go settings m s with ⟨_ | outcome, t⟩
  · rw [go_succ_of_running hgo, Step.state_ended, h.step_waveOf]
    exact ⟨waveOf settings t, rfl⟩
  · rw [go_of_ended hgo 1]
    exact ⟨none, (List.append_nil _).symm⟩

/-- As long as no files fail, a run goes on alike under both policies. -/
theorem go_answering_of_fine (h : KeepsWaves settings past) {m : Nat}
    (hfine : ∀ a ∈ past (go (settings.answering .proceed) m s).state.world, ¬ a.FilesFailed) :
    go (settings.answering .abort) m s = go (settings.answering .proceed) m s := by
  have hkeeps : KeepsWaves (settings.answering .proceed) past := ⟨h.provide, h.apply⟩
  induction m with
  | zero => rfl
  | succ m ih =>
    obtain ⟨wave, hpast⟩ := hkeeps.go_succ m s
    have hsame := ih (fun a ha => hfine a (by rw [hpast]; exact List.mem_append_left _ ha))
    rcases hgo : go (settings.answering .proceed) m s with ⟨_ | outcome, t⟩
    · rw [hgo] at hsame
      rw [go_succ_of_running hgo, Step.state_ended, hkeeps.step_waveOf] at hfine
      rw [go_succ_of_running hgo, go_succ_of_running hsame]
      refine congrArg Step.ended (step_answering_of_fine ?_ .abort .proceed)
      intro a ha
      refine hfine a (List.mem_append_right _ ?_)
      exact Option.mem_toList.2 ha
    · rw [hgo] at hsame
      rw [go_of_ended hgo 1, go_of_ended hsame 1]

section Fine

variable {world : σ} {budget : Nat}
  (hfine : ∀ a ∈ history (settings.answering .proceed) budget world, ¬ a.FilesFailed)

include hfine

/-- If no files fail, it makes no difference what is to be done when they do. -/
theorem tracked_answering_of_fine :
    tracked (settings.answering .abort) budget world
      = tracked (settings.answering .proceed) budget world := by
  rw [← history_tracked] at hfine
  exact go_answering_of_fine (keeps_tracked settings) hfine

theorem start_answering_of_fine :
    start (settings.answering .abort) budget world
      = start (settings.answering .proceed) budget world := by
  rw [← start_tracked, ← start_tracked, tracked_answering_of_fine hfine]

theorem calls_answering_of_fine :
    calls (settings.answering .abort) budget world
      = calls (settings.answering .proceed) budget world := by
  rw [← calls_tracked, ← calls_tracked, tracked_answering_of_fine hfine]

end Fine

/-! ## The first wave of which files fail -/

/-- Round `k` applies the first wave of which files fail. -/
structure FirstFailure (settings : RunSettings σ) (world : σ) (k : Nat) (files : FileMutations)
    (failures : List (String × FileError)) : Prop where
  /-- Before it no files fail. -/
  fine : ∀ a ∈ history settings k world, ¬ a.FilesFailed
  wave : history settings (k + 1) world
    = history settings k world ++ [⟨files, .error (.files failures)⟩]

/-- A run that is to stop when files fail, beside one that is to go on but takes no more waves than
up to round `k`. -/
structure AbortsAfter (settings : RunSettings σ) (world : σ) (budget k : Nat)
    (files : FileMutations) (failures : List (String × FileError)) (results : Results) : Prop where
  /-- The one stops because of the files. -/
  aborted : (start (settings.answering .abort) budget world).outcome
    = some (.error (.aborted (.files failures) results))
  /-- The other ends with the same results. -/
  finished : (start ((settings.answering .proceed).upTo (k + 1)) (budget + 1) world).outcome
    = some (.ok results)
  /-- Both leave the same files. -/
  world_eq : (start (settings.answering .abort) budget world).state.world
    = (start ((settings.answering .proceed).upTo (k + 1)) (budget + 1) world).state.world
  /-- They tell a listener the same, but only the other one that it is over. -/
  events_eq :
    Log.events (start ((settings.answering .proceed).upTo (k + 1)) (budget + 1) world).state.log
      = Log.events (start (settings.answering .abort) budget world).state.log ++ [.runEnd results]
  /-- After the wave has been applied nothing is called. -/
  calls_eq : calls (settings.answering .abort) budget world
    = calls (settings.answering .proceed) k world ++ [.provide, .apply files]

variable {world : σ} {k : Nat} {failures : List (String × FileError)}

/-- If files fail, there is a first wave of which they do. -/
theorem exists_firstFailure {budget : Nat}
    (h : ∃ a ∈ history settings budget world, a.FilesFailed) :
    ∃ k < budget, ∃ files failures, FirstFailure settings world k files failures := by
  induction budget with
  | zero =>
    obtain ⟨a, ha, -⟩ := h
    cases ha
  | succ budget ih =>
    by_cases hfine : ∀ a ∈ history settings budget world, ¬ a.FilesFailed
    · obtain ⟨wave, hpast⟩ := (keeps_tracked settings).go_succ budget (.start ((world, []), []))
      change (tracked settings (budget + 1) world).state.world.1.2
        = (tracked settings budget world).state.world.1.2 ++ wave.toList at hpast
      rw [history_tracked, history_tracked] at hpast
      obtain ⟨a, ha, failures, hfailed⟩ := h
      rw [hpast] at ha
      rcases List.mem_append.1 ha with ha | ha
      · exact absurd ⟨failures, hfailed⟩ (hfine a ha)
      · obtain ⟨files, outcome⟩ := a
        obtain rfl : outcome = .error (.files failures) := hfailed
        rw [Option.mem_toList] at ha
        rw [ha] at hpast
        exact ⟨budget, Nat.lt_succ_self _, files, failures, hfine, hpast⟩
    · have hfailed : ∃ a ∈ history settings budget world, a.FilesFailed := by
        simpa using hfine
      obtain ⟨k, hk, hfirst⟩ := ih hfailed
      exact ⟨k, by omega, hfirst⟩

/-- Where a run stands before and after the first wave of which files fail. -/
theorem FirstFailure.running
    (h : FirstFailure (settings.answering .proceed) world k files failures) :
    ∃ u, tracked (settings.answering .proceed) k world = ⟨none, u⟩ ∧
      waveOf settings.chronicled.recorded u = some ⟨files, .error (.files failures)⟩ := by
  have hwave := h.wave
  rw [← history_tracked, ← history_tracked] at hwave
  rcases hgo : tracked (settings.answering .proceed) k world with ⟨_ | outcome, u⟩
  · refine ⟨u, rfl, ?_⟩
    have hsucc : tracked (settings.answering .proceed) (k + 1) world
        = (step (settings.answering .proceed).chronicled.recorded u).ended := go_succ_of_running hgo
    have hpast := (keeps_tracked (settings.answering .proceed)).step_waveOf u
    rw [hgo, hsucc, Step.state_ended, hpast] at hwave
    exact Option.toList_eq_singleton_iff.1 (List.append_cancel_left hwave)
  · have hsucc : tracked (settings.answering .proceed) (k + 1) world = ⟨some outcome, u⟩ :=
      go_of_ended hgo 1
    rw [hsucc, hgo] at hwave
    simp at hwave

/-- A run that is to stop ends with the first wave of which files fail, as a run does that takes no
more waves. -/
theorem abortsAfter_of_firstFailure
    (h : FirstFailure (settings.answering .proceed) world k files failures) {budget : Nat}
    (hbudget : k < budget) :
    ∃ results, AbortsAfter settings world budget k files failures results := by
  obtain ⟨u, hgo, hwave⟩ := h.running
  obtain ⟨t, hstop, hnext, hworld⟩ := step_answering_of_failed hwave
  have hsame : tracked (settings.answering .abort) k world = ⟨none, u⟩ :=
    (tracked_answering_of_fine h.fine).trans hgo
  have hsucc : tracked (settings.answering .proceed) (k + 1) world = ⟨none, _⟩ :=
    (go_succ_of_running hgo).trans (congrArg Step.ended hnext)
  -- the run that is to stop
  have habort : tracked (settings.answering .abort) budget world
      = ⟨some (.error (.aborted (.files failures) t.results)), t⟩ := by
    have hended : tracked (settings.answering .abort) (k + 1) world = _ :=
      (go_succ_of_running hsame).trans (congrArg Step.ended hstop)
    rw [show budget = k + 1 + (budget - (k + 1)) by omega]
    exact go_of_ended hended _
  -- the run that takes no more waves
  obtain ⟨hcapped, hlast⟩ := go_upTo hsucc (show 0 + (k + 1) ≤ k + 1 by omega)
  have hwave : t.wave + 1 = 0 + (k + 1) := hlast
  have hbounded : tracked ((settings.answering .proceed).upTo (k + 1)) (budget + 1) world
      = ⟨some (.ok t.results), { t with
          wave := t.wave + 1
          log := t.log ++ [.continuing (.files failures)] ++ [.runEnd t.results] }⟩ := by
    have hallows : ((settings.answering .proceed).upTo (k + 1)).waves.allows (t.wave + 1) = false :=
      decide_eq_false (by omega)
    rw [show budget + 1 = k + 1 + (budget - (k + 1) + 1) by omega]
    refine (go_of_running hcapped _).trans ?_
    rw [go, step_capped hallows]
    rfl
  have hcalls : t.world.2 = u.world.2 ++ [.provide, .apply files] := by
    rw [hworld]
    exact List.append_assoc _ [_] [_]
  refine ⟨t.results, ?_, ?_, ?_, ?_, ?_⟩
  · rw [← start_tracked, habort]
    rfl
  · rw [← start_tracked, hbounded]
    rfl
  · rw [← start_tracked, ← start_tracked, habort, hbounded]
    rfl
  · rw [← start_tracked, ← start_tracked, habort, hbounded]
    simp [Ended.map, State.map, Log.events, Entry.isNote]
  · rw [← calls_tracked, ← calls_tracked, habort, hgo]
    exact hcalls

/-- If no files fail, a run that is to stop when they do is the run that is to go on.  Otherwise it
ends with the first wave of which files fail: it calls neither provider nor applier after that, it
has the results and the files of the run that takes no more waves, and it has told a listener what
that one has, except that the run is over. -/
theorem abort_prefix (settings : RunSettings σ) (world : σ) :
    (∀ budget, (∀ a ∈ history (settings.answering .proceed) budget world, ¬ a.FilesFailed) →
      start (settings.answering .abort) budget world
        = start (settings.answering .proceed) budget world ∧
      calls (settings.answering .abort) budget world
        = calls (settings.answering .proceed) budget world) ∧
    (∀ budget, (∃ a ∈ history (settings.answering .proceed) budget world, a.FilesFailed) →
      ∃ k < budget, ∃ files failures,
        FirstFailure (settings.answering .proceed) world k files failures) ∧
    ∀ k files failures, FirstFailure (settings.answering .proceed) world k files failures →
      ∀ budget, k < budget →
        ∃ results, AbortsAfter settings world budget k files failures results := by
  refine ⟨?_, fun budget => exists_firstFailure, ?_⟩
  · exact fun budget hfine => ⟨start_answering_of_fine hfine, calls_answering_of_fine hfine⟩
  · intro k files failures hfirst budget hbudget
    exact abortsAfter_of_firstFailure hfirst hbudget

/-- Of the second wave a file fails, and the third is not asked for. -/
theorem abort_prefix_three_waves :
    let wave (name : String) : FileMutations := .ofList [(name, [])]
    let files : Store := ⟨.ofList [("a.txt", .new "one" [] []), ("b.txt", .new "two" [0] [])]⟩
    let settings : RunSettings (List Wave × Workspace Store) :=
      ⟨Source.queue.first, Workspace.applier.second, ⟨0, none⟩, .abort⟩
    let world := ([⟨some (wave "a.txt")⟩, ⟨some (wave "b.txt")⟩, ⟨some (wave "a.txt")⟩],
      Workspace.new files .builtins)
    let continued := settings.answering .proceed
    let failures : List (String × FileError) := [("b.txt", .other "read rejected")]
    (∀ a ∈ history continued 1 world, ¬ a.FilesFailed) ∧
      start (settings.answering .abort) 1 world = start continued 1 world ∧
      FirstFailure continued world 1 (wave "b.txt") failures ∧
      (∃ k < 2, ∃ files failures, FirstFailure continued world k files failures) ∧
      ∃ results, AbortsAfter settings world 4 1 (wave "b.txt") failures results := by
  intro wave files settings world continued failures
  have hfine : ∀ a ∈ history continued 1 world, ¬ a.FilesFailed := by
    have hhistory : history continued 1 world = [⟨wave "a.txt", .ok ()⟩] := rfl
    rw [hhistory]
    rintro a ha ⟨failures, hfailed⟩
    obtain rfl := List.mem_singleton.1 ha
    cases hfailed
  have hfirst : FirstFailure continued world 1 (wave "b.txt") failures := ⟨hfine, rfl⟩
  have hfailed : ∃ a ∈ history continued 2 world, a.FilesFailed := by
    rw [hfirst.wave]
    exact ⟨_, List.mem_append_right _ List.mem_cons_self, failures, rfl⟩
  obtain ⟨hsame, hexists, haborts⟩ := abort_prefix settings world
  exact ⟨hfine, (hsame 1 hfine).1, hfirst, hexists 2 hfailed, haborts 1 _ _ hfirst 4 (by decide)⟩

end Run

end EditWaves
