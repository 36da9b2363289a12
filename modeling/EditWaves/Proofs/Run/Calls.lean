import EditWaves.Run

/-!
# What a run calls

A run can be watched from within its world: `RunSettings.recorded` keeps beside the
world the list of the calls that were made of the provider and of the applier.

* `Run.start_recorded`: a run that is recorded is the run that is not, call by call.
* `Run.world_invariant`: what every call keeps holds at the end of a run.
-/

namespace EditWaves

/-! ## One round -/

namespace Run

variable {σ : Type} {settings : RunSettings σ} {s : State σ} {w : Wave} {files : FileMutations}
  {world : σ}

/-- The state in which a step leaves a run. -/
def Step.state : Step σ → State σ
  | next s => s
  | stop _ s => s

/-- A state after the provider has been asked. -/
def State.asked (s : State σ) (world : σ) : State σ :=
  { s with world, log := s.log ++ [.provideBegin] }

/-- A state after the provider has answered with a wave. -/
def State.provided (s : State σ) (world : σ) (w : Wave) : State σ :=
  { s.asked world with log := (s.asked world).log ++ [.provideEnd w] }

/-- At the maximum nothing is asked for. -/
theorem step_capped (hallows : settings.waves.allows s.wave = false) :
    step settings s = finish s := by
  rw [step, hallows]
  rfl

/-- A failing provider stops the run. -/
theorem step_failed {chain : Chain} (hallows : settings.waves.allows s.wave = true)
    (hprovide : settings.provider.provide s.world = (.error chain, world)) :
    step settings s = .stop (.error (.provider chain)) (s.asked world) := by
  rw [step, if_pos hallows, hprovide]
  rfl

/-- A wave without files is a dry one. -/
theorem step_dry (hallows : settings.waves.allows s.wave = true)
    (hprovide : settings.provider.provide s.world = (.ok w, world)) (hw : w.files = none) :
    step settings s = dryWave settings (s.provided world w) := by
  rw [step, if_pos hallows, hprovide]
  simp only [hw]
  rfl

/-- A wave with files is applied. -/
theorem step_files (hallows : settings.waves.allows s.wave = true)
    (hprovide : settings.provider.provide s.world = (.ok w, world)) (hw : w.files = some files) :
    step settings s = applyWave settings (s.provided world w) w files := by
  rw [step, if_pos hallows, hprovide]
  simp only [hw]
  rfl

/-- A state after a wave has been given to the applier. -/
def State.applied (s : State σ) (w : Wave) (world : σ) (log : Log) : State σ :=
  { s with world, log := s.log ++ .waveBegin w :: log ++ [.waveEnd w] }

variable {log : Log}

/-- After a wave of which no files fail the run goes on. -/
theorem applyWave_ok (happly : settings.applier.apply s.world files = (.ok (), world, log)) :
    applyWave settings s w files
      = .next { record (s.applied w world log) files [] with wave := s.wave + 1 } := by
  rw [applyWave, happly]
  rfl

/-- A wave that could not be applied at all ends the run. -/
theorem applyWave_other {reason : String}
    (happly : settings.applier.apply s.world files = (.error (.other reason), world, log)) :
    applyWave settings s w files
      = .stop (.error (.apply (.other reason))) (s.applied w world log) := by
  rw [applyWave, happly]
  rfl

/-- Files that fail end the run if it is to stop then. -/
theorem applyWave_abort {failures : List (String × FileError)}
    (hpolicy : settings.onFileError = .abort)
    (happly : settings.applier.apply s.world files = (.error (.files failures), world, log)) :
    applyWave settings s w files =
      let t := record (s.applied w world log) files (failures.map Prod.fst)
      .stop (.error (.aborted (.files failures) t.results)) t := by
  rw [applyWave, happly]
  simp only [hpolicy]
  rfl

/-- Otherwise the run goes on, and a note is made. -/
theorem applyWave_proceed {failures : List (String × FileError)}
    (hpolicy : settings.onFileError = .proceed)
    (happly : settings.applier.apply s.world files = (.error (.files failures), world, log)) :
    applyWave settings s w files =
      let t := record (s.applied w world log) files (failures.map Prod.fst)
      .next { t with wave := t.wave + 1, log := t.log ++ [.continuing (.files failures)] } := by
  rw [applyWave, happly]
  simp only [hpolicy]
  rfl

/-- Whatever comes of a dry wave, the world is not touched. -/
theorem world_dryWave : (dryWave settings s).state.world = s.world := by
  rw [dryWave]
  split <;> rfl

/-- Whatever comes of a wave with files, the world is the one its applier leaves. -/
theorem world_applyWave :
    (applyWave settings s w files).state.world = (settings.applier.apply s.world files).2.1 := by
  rcases happly : settings.applier.apply s.world files with ⟨outcome, world, log⟩
  rcases outcome with (failures | reason) | _
  · cases hpolicy : settings.onFileError with
    | abort => rw [applyWave_abort hpolicy happly]; rfl
    | proceed => rw [applyWave_proceed hpolicy happly]; rfl
  · rw [applyWave_other happly]; rfl
  · rw [applyWave_ok happly]; rfl

end Run

/-! ## Simulations -/

namespace Run

variable {σ τ : Type}

/-- A state seen in another world. -/
def State.map (f : σ → τ) (s : State σ) : State τ :=
  ⟨f s.world, s.wave, s.mutated, s.failed, s.log⟩

/-- A step seen in another world. -/
def Step.map (f : σ → τ) : Step σ → Step τ
  | next s => .next (s.map f)
  | stop outcome s => .stop outcome (s.map f)

/-- The end of a run seen in another world. -/
def Ended.map (f : σ → τ) (e : Ended σ) : Ended τ := ⟨e.outcome, e.state.map f⟩

/-- Settings in two worlds that answer alike, where `f` sees the first in the second. -/
structure Simulates (f : σ → τ) (first : RunSettings σ) (second : RunSettings τ) : Prop where
  provide (s : σ) : second.provider.provide (f s)
    = ((first.provider.provide s).1, f (first.provider.provide s).2)
  apply (s : σ) (files : FileMutations) : second.applier.apply (f s) files
    = ((first.applier.apply s files).1, f (first.applier.apply s files).2.1,
        (first.applier.apply s files).2.2)
  waves : second.waves = first.waves
  onFileError : second.onFileError = first.onFileError

namespace Simulates

variable {f : σ → τ} {first : RunSettings σ} {second : RunSettings τ}

theorem applyWave (h : Simulates f first second) (s : State σ) (w : Wave)
    (files : FileMutations) :
    Run.applyWave second (s.map f) w files = (Run.applyWave first s w files).map f := by
  simp only [Run.applyWave, State.map, h.apply, h.onFileError]
  rcases (first.applier.apply s.world files).1 with (failures | reason) | _
  · cases first.onFileError <;> rfl
  · rfl
  · rfl

theorem dryWave (h : Simulates f first second) (s : State σ) :
    Run.dryWave second (s.map f) = (Run.dryWave first s).map f := by
  simp only [Run.dryWave, State.map, h.waves]
  split <;> rfl

theorem step (h : Simulates f first second) (s : State σ) :
    Run.step second (s.map f) = (Run.step first s).map f := by
  have hprovide := h.provide s.world
  cases hallows : first.waves.allows s.wave with
  | false =>
    have hsecond : second.waves.allows (s.map f).wave = false := h.waves ▸ hallows
    rw [step_capped hallows, step_capped hsecond]
    rfl
  | true =>
    have hsecond : second.waves.allows (s.map f).wave = true := h.waves ▸ hallows
    rcases hfirst : first.provider.provide s.world with ⟨provided, world⟩
    rw [hfirst] at hprovide
    cases provided with
    | error chain =>
      rw [step_failed hallows hfirst, step_failed hsecond hprovide]
      rfl
    | ok w =>
      cases hw : w.files with
      | none =>
        rw [step_dry hallows hfirst hw, step_dry hsecond hprovide hw]
        exact h.dryWave (s.provided world w)
      | some files =>
        rw [step_files hallows hfirst hw, step_files hsecond hprovide hw]
        exact h.applyWave (s.provided world w) w files

theorem go (h : Simulates f first second) (budget : Nat) (s : State σ) :
    Run.go second budget (s.map f) = (Run.go first budget s).map f := by
  induction budget generalizing s with
  | zero => rfl
  | succ budget ih =>
    rw [Run.go, Run.go, h.step]
    cases Run.step first s with
    | next t => exact ih t
    | stop outcome t => rfl

end Simulates

end Run

/-! ## Recorded calls -/

/-- One call that a run makes. -/
inductive Call where
  /-- The provider was asked for a wave. -/
  | provide
  /-- The applier was given the files of a wave. -/
  | apply (files : FileMutations)

/-- The files that a call gives to the applier. -/
def Call.files? : Call → Option FileMutations
  | provide => none
  | apply files => some files

variable {σ : Type}

/-- A provider that writes down when it is asked. -/
def Provider.recorded (p : Provider σ) : Provider (σ × List Call) where
  provide s :=
    let (result, own) := p.provide s.1
    (result, own, s.2 ++ [.provide])

/-- An applier that writes down what it is given. -/
def Applier.recorded (a : Applier σ) : Applier (σ × List Call) where
  apply s files :=
    let (result, own, log) := a.apply s.1 files
    (result, (own, s.2 ++ [.apply files]), log)

/-- Settings under which a run writes down its calls. -/
def RunSettings.recorded (settings : RunSettings σ) : RunSettings (σ × List Call) :=
  ⟨settings.provider.recorded, settings.applier.recorded, settings.waves, settings.onFileError⟩

namespace Run

variable (settings : RunSettings σ) (budget : Nat) (world : σ)

/-- The calls of a run, in order. -/
def calls : List Call := (start settings.recorded budget (world, [])).state.world.2

/-- How often a run asks the provider. -/
def provideCount : Nat := (calls settings budget world).countP (fun c => c.files?.isNone)

/-- What a run gives to the applier, in order. -/
def applied : List FileMutations := (calls settings budget world).filterMap Call.files?

theorem simulates_recorded : Simulates Prod.fst settings.recorded settings :=
  ⟨fun _ => rfl, fun _ _ => rfl, rfl, rfl⟩

/-- A recorded run is the run itself. -/
theorem start_recorded (past : List Call) :
    (start settings.recorded budget (world, past)).map Prod.fst = start settings budget world :=
  ((simulates_recorded settings).go budget (.start (world, past))).symm

/-! ## Invariants -/

variable {settings budget world}

/-- What the calls of a step keep, the step keeps. -/
theorem step_invariant {P : σ → Prop}
    (hprovide : ∀ s, P s → P (settings.provider.provide s).2)
    (happly : ∀ s files, P s → P (settings.applier.apply s files).2.1)
    {s : State σ} (hs : P s.world) : P (step settings s).state.world := by
  have hasked := hprovide s.world hs
  cases hallows : settings.waves.allows s.wave with
  | false =>
    rw [step_capped hallows]
    exact hs
  | true =>
    rcases hprovided : settings.provider.provide s.world with ⟨provided, world⟩
    rw [hprovided] at hasked
    cases provided with
    | error chain =>
      rw [step_failed hallows hprovided]
      exact hasked
    | ok w =>
      cases hw : w.files with
      | none =>
        rw [step_dry hallows hprovided hw, world_dryWave]
        exact hasked
      | some files =>
        rw [step_files hallows hprovided hw, world_applyWave]
        exact happly world files hasked

/-- What every call keeps holds at the end of a run. -/
theorem world_invariant {P : σ → Prop}
    (hprovide : ∀ s, P s → P (settings.provider.provide s).2)
    (happly : ∀ s files, P s → P (settings.applier.apply s files).2.1)
    (hworld : P world) : P (start settings budget world).state.world := by
  have hgo : ∀ budget (s : State σ), P s.world → P (go settings budget s).state.world := by
    intro budget
    induction budget with
    | zero => exact fun _ hs => hs
    | succ budget ih =>
      intro s hs
      have hstep := step_invariant hprovide happly hs
      rw [go]
      cases hnext : step settings s with
      | next t =>
        rw [hnext] at hstep
        exact ih t hstep
      | stop outcome t =>
        rw [hnext] at hstep
        exact hstep
  exact hgo budget _ hworld

end Run

end EditWaves
