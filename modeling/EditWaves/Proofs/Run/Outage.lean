import EditWaves.Proofs.Run.Blocks
import EditWaves.Proofs.Run.Schedule

/-!
# Runs in which a call fails

A provider that fails at one of its calls, or an applier that does, cuts a run short there.  Up to
that call nothing tells the run from the one in which no call fails, and a run that makes fewer
calls does not change at all.

* `start_counted`: calls can be counted without a change to the run.
* `CutsAt.go`: two runs that part where one of them stops.
* `start_failingAt`, `start_offlineAt`: a call of the provider fails, or one of the applier.
-/

namespace EditWaves

namespace Run

variable {σ π α : Type}

/-! ## Counted calls -/

/-- A run whose provider and applier have nothing in common. -/
def apart (p : Provider π) (a : Applier α) (waves : WavesPolicy) (policy : FileErrorPolicy) :
    RunSettings (π × α) :=
  ⟨p.first, a.second, waves, policy⟩

/-- The same with counters of the calls, at one of which the provider may fail, and at one the
applier. -/
def outage (call applyCall : Option Nat) (p : Provider π) (a : Applier α) (waves : WavesPolicy)
    (policy : FileErrorPolicy) : RunSettings ((Nat × π) × Nat × α) :=
  apart (Source.failingAt call p) (Source.offlineAt applyCall a) waves policy

/-- The counters that are due to recorded calls. -/
def counters (s : (π × α) × List Call) : (Nat × π) × Nat × α :=
  ((s.2.countP (fun c => c.files?.isNone), s.1.1), (s.2.filterMap Call.files?).length, s.1.2)

section Counters

variable (p : Provider π) (a : Applier α) (waves : WavesPolicy) (policy : FileErrorPolicy)

/-- Where no call fails, the counters say how many calls there were. -/
theorem simulates_counters :
    Simulates counters (apart p a waves policy).recorded (outage none none p a waves policy) where
  provide s := by
    simp [outage, apart, counters, RunSettings.recorded, Provider.recorded, Provider.first,
      Source.failingAt, Source.counting, Call.files?]
  apply s files := by
    simp [outage, apart, counters, RunSettings.recorded, Applier.recorded, Applier.second,
      Source.offlineAt, Call.files?]
  waves := rfl
  onFileError := rfl

variable (x : π) (y : α) (budget : Nat)

theorem start_counted :
    start (outage none none p a waves policy) budget ((0, x), 0, y)
      = (start (apart p a waves policy).recorded budget ((x, y), [])).map counters :=
  (simulates_counters p a waves policy).go budget (.start ((x, y), []))

theorem provides_counted :
    (start (outage none none p a waves policy) budget ((0, x), 0, y)).state.world.1.1
      = provideCount (apart p a waves policy) budget (x, y) := by
  rw [start_counted]
  rfl

theorem applies_counted :
    (start (outage none none p a waves policy) budget ((0, x), 0, y)).state.world.2.1
      = (applied (apart p a waves policy) budget (x, y)).length := by
  rw [start_counted]
  rfl

end Counters

/-! ## Two runs that part -/

/-- One run stops in the states that are `hit`, where something is counted that has been counted
`n` times before.  In all others both take the same step. -/
structure CutsAt (count : σ → Nat) (n : Nat) (hit : State σ → Prop) (whole cut : RunSettings σ) :
    Prop where
  same (s : State σ) : ¬ hit s → step cut s = step whole s
  stops (s : State σ) : hit s → ∃ outcome t, step cut s = .stop outcome t
  below (s : State σ) : ¬ hit s → count s.world ≤ n → count (step whole s).state.world ≤ n
  above (s : State σ) : hit s → n < count (step whole s).state.world
  grows (s : State σ) : count s.world ≤ count (step whole s).state.world

namespace CutsAt

variable {count : σ → Nat} {n : Nat} {hit : State σ → Prop} {whole cut : RunSettings σ}

theorem grows_go (h : CutsAt count n hit whole cut) (budget : Nat) (s : State σ) :
    count s.world ≤ count (Run.go whole budget s).state.world := by
  induction budget generalizing s with
  | zero => exact Nat.le_refl _
  | succ budget ih =>
    have hs := h.grows s
    rw [Run.go]
    cases hstep : step whole s with
    | next t =>
      rw [hstep] at hs
      exact Nat.le_trans hs (ih t)
    | stop outcome t =>
      rw [hstep] at hs
      exact hs

/-- A run that counts no further is not cut short.  Any other one is what the whole run is before
the state in which it is hit, and ends there. -/
theorem go (h : CutsAt count n hit whole cut) (budget : Nat) {s : State σ}
    (hs : count s.world ≤ n) :
    (count (Run.go whole budget s).state.world ≤ n ∧
      Run.go cut budget s = Run.go whole budget s) ∨
    (n < count (Run.go whole budget s).state.world ∧ ∃ m < budget, ∃ t,
      Run.go whole m s = ⟨none, t⟩ ∧ hit t ∧ Run.go cut budget s = (step cut t).ended) := by
  induction budget generalizing s with
  | zero => exact .inl ⟨hs, rfl⟩
  | succ budget ih =>
    -- The two part in the first state that is hit; what is counted after it is above `n`.
    by_cases hhit : hit s
    · obtain ⟨outcome, t, hcut⟩ := h.stops s hhit
      have habove := h.above s hhit
      refine .inr ⟨?_, 0, Nat.succ_pos _, s, rfl, hhit, by rw [Run.go, hcut]; rfl⟩
      rw [Run.go]
      cases hstep : step whole s with
      | next t =>
        rw [hstep] at habove
        exact Nat.lt_of_lt_of_le habove (h.grows_go budget t)
      | stop outcome t =>
        rw [hstep] at habove
        exact habove
    · have hbelow := h.below s hhit hs
      rw [Run.go, Run.go, h.same s hhit]
      cases hstep : step whole s with
      | next t =>
        rw [hstep] at hbelow
        refine (ih hbelow).imp_right ?_
        rintro ⟨habove, m, hm, u, hwhole, hu, hcut⟩
        exact ⟨habove, m + 1, by omega, u, by rw [Run.go, hstep]; exact hwhole, hu, hcut⟩
      | stop outcome t =>
        rw [hstep] at hbelow
        exact .inl ⟨hbelow, rfl⟩

end CutsAt

/-- Steps are the same where the calls are. -/
theorem step_congr {whole cut : RunSettings σ} {s : State σ} (hwaves : cut.waves = whole.waves)
    (hpolicy : cut.onFileError = whole.onFileError)
    (hprovide : cut.provider.provide s.world = whole.provider.provide s.world)
    (happly : ∀ files world, whole.provider.provide s.world = (.ok ⟨some files⟩, world) →
      cut.applier.apply world files = whole.applier.apply world files) :
    step cut s = step whole s := by
  rcases hwhole : whole.provider.provide s.world with ⟨chain | ⟨_ | files⟩, world⟩
  · simp only [step, hwaves, hprovide, hwhole, finish]
  · simp only [step, hwaves, hprovide, hwhole, finish, dryWave]
  · simp only [step, hwaves, hprovide, hwhole, finish, applyWave, happly files world hwhole, hpolicy]

/-! ## Rounds with counted calls -/

section Rounds

variable {call applyCall : Option Nat} {p : Provider π} {a : Applier α} {waves : WavesPolicy}
  {policy : FileErrorPolicy} {w : (Nat × π) × Nat × α} {files : FileMutations}

theorem provide_outage (h : call ≠ some w.1.1) :
    (outage call applyCall p a waves policy).provider.provide w
      = ((p.provide w.1.2).1, (w.1.1 + 1, (p.provide w.1.2).2), w.2) := by
  simp [outage, apart, Provider.first, Source.failingAt, Source.counting, h]

theorem provide_outage_failed :
    (outage (some w.1.1) applyCall p a waves policy).provider.provide w
      = (.error [.message s!"call {w.1.1}", .message "linter crashed"],
          (w.1.1 + 1, w.1.2), w.2) := by
  simp [outage, apart, Provider.first, Source.failingAt]

theorem apply_outage (h : applyCall ≠ some w.2.1) :
    (outage call applyCall p a waves policy).applier.apply w files
      = ((a.apply w.2.2 files).1, (w.1, w.2.1 + 1, (a.apply w.2.2 files).2.1),
          (a.apply w.2.2 files).2.2) := by
  simp [outage, apart, Applier.second, Source.offlineAt, h]

theorem apply_outage_failed :
    (outage call (some w.2.1) p a waves policy).applier.apply w files
      = (.error (.other "applier offline"), (w.1, w.2.1 + 1, w.2.2), []) := by
  simp [outage, apart, Applier.second, Source.offlineAt]

/-- What a round makes of the counters in which no call fails. -/
theorem afterRound_counted : afterRound (outage none none p a waves policy) w =
    match p.provide w.1.2 with
    | (.ok ⟨some files⟩, own) => ((w.1.1 + 1, own), w.2.1 + 1, (a.apply w.2.2 files).2.1)
    | (_, own) => ((w.1.1 + 1, own), w.2) := by
  rw [afterRound, provide_outage (Option.some_ne_none _).symm]
  rcases p.provide w.1.2 with ⟨chain | ⟨_ | files⟩, own⟩
  · rfl
  · rfl
  · simp only [apply_outage (Option.some_ne_none _).symm]

variable {s : State ((Nat × π) × Nat × α)}

/-- A round asks the provider once, unless the run has come to the maximum. -/
theorem provides_step : (step (outage none none p a waves policy) s).state.world.1.1
    = s.world.1.1 + if waves.allows s.wave then 1 else 0 := by
  rw [world_step, afterRound_counted]
  show (if waves.allows s.wave then _ else _ : (Nat × π) × Nat × α).1.1 = _
  split
  · rcases p.provide s.world.1.2 with ⟨chain | ⟨_ | files⟩, own⟩ <;> rfl
  · rfl

/-- It applies a wave if it is offered one. -/
theorem applies_step : (step (outage none none p a waves policy) s).state.world.2.1
    = s.world.2.1 + (blockOf (outage none none p a waves policy) s).elim 0
        (fun b => (b.calls.filterMap Call.files?).length) := by
  rw [world_step, afterRound_counted, blockOf, provide_outage (Option.some_ne_none _).symm]
  show (if waves.allows s.wave then _ else _ : (Nat × π) × Nat × α).2.1
    = _ + Option.elim (if waves.allows s.wave then _ else _) 0 _
  split
  · rcases p.provide s.world.1.2 with ⟨chain | ⟨_ | files⟩, own⟩ <;> rfl
  · rfl

/-- A round in which the provider fails. -/
theorem step_failing (hallows : waves.allows s.wave = true) :
    step (outage (some s.world.1.1) applyCall p a waves policy) s
      = .stop (.error (.provider [.message s!"call {s.world.1.1}", .message "linter crashed"]))
          (s.asked ((s.world.1.1 + 1, s.world.1.2), s.world.2)) :=
  step_failed hallows provide_outage_failed

/-- A round in which the applier fails. -/
theorem step_offline {world : (Nat × π) × Nat × α}
    (hblock : blockOf (outage none none p a waves policy) s = some (.wave files world)) :
    step (outage none (some s.world.2.1) p a waves policy) s
      = .stop (.error (.apply (.other "applier offline")))
          ((s.provided world ⟨some files⟩).applied ⟨some files⟩
            (world.1, s.world.2.1 + 1, world.2.2) []) := by
  obtain ⟨hallows, hprovide⟩ := blockOf_eq_wave_iff.1 hblock
  have hworld : s.world.2.1 = world.2.1 := by
    rw [provide_outage (Option.some_ne_none _).symm] at hprovide
    exact congrArg (fun w => w.2.1) (congrArg Prod.snd hprovide)
  have happly : (outage none (some s.world.2.1) p a waves policy).applier.apply world files
      = (.error (.other "applier offline"), (world.1, s.world.2.1 + 1, world.2.2), []) := by
    rw [hworld]
    exact apply_outage_failed
  have hstep : step (outage none (some s.world.2.1) p a waves policy) s = _ :=
    step_files hallows hprovide rfl
  rw [hstep, applyWave_other happly]

/-- Calls of the provider are counted, and the one that fails cuts the run short. -/
theorem cutsAt_failing (p : Provider π) (a : Applier α) (waves : WavesPolicy)
    (policy : FileErrorPolicy) (n : Nat) :
    CutsAt (fun w => w.1.1) n (fun s => waves.allows s.wave = true ∧ s.world.1.1 = n)
      (outage none none p a waves policy) (outage (some n) none p a waves policy) where
  same s hmiss := by
    cases hallows : waves.allows s.wave with
    | false => exact (step_capped hallows).trans (step_capped hallows).symm
    | true =>
      have hcount : some n ≠ some s.world.1.1 := by
        rintro h
        exact hmiss ⟨hallows, (Option.some.inj h).symm⟩
      refine step_congr rfl rfl ?_ (fun _ _ _ => rfl)
      rw [provide_outage hcount, provide_outage (Option.some_ne_none _).symm]
  stops := by
    rintro s ⟨hallows, rfl⟩
    exact ⟨_, _, step_failing hallows⟩
  below s hmiss hle := by
    rw [provides_step]
    split
    case isTrue hallows =>
      have hne : s.world.1.1 ≠ n := fun h => hmiss ⟨hallows, h⟩
      omega
    case isFalse => exact hle
  above := by
    rintro s ⟨hallows, rfl⟩
    rw [provides_step, if_pos hallows]
    exact Nat.lt_succ_self _
  grows s := by
    rw [provides_step]
    exact Nat.le_add_right _ _

/-- So it is with the calls of the applier. -/
theorem cutsAt_offline (p : Provider π) (a : Applier α) (waves : WavesPolicy)
    (policy : FileErrorPolicy) (n : Nat) :
    CutsAt (fun w => w.2.1) n
      (fun s => (∃ files world,
        blockOf (outage none none p a waves policy) s = some (.wave files world)) ∧ s.world.2.1 = n)
      (outage none none p a waves policy) (outage none (some n) p a waves policy) where
  same s hmiss := by
    cases hallows : waves.allows s.wave with
    | false => exact (step_capped hallows).trans (step_capped hallows).symm
    | true =>
      refine step_congr rfl rfl rfl ?_
      intro files world hprovide
      have hcount : some n ≠ some world.2.1 := by
        rintro h
        have hworld : world.2.1 = s.world.2.1 := by
          rw [provide_outage (Option.some_ne_none _).symm] at hprovide
          exact congrArg (fun w => w.2.1) (congrArg Prod.snd hprovide).symm
        exact hmiss ⟨⟨files, world, blockOf_files hallows hprovide⟩,
          hworld.symm.trans (Option.some.inj h).symm⟩
      rw [apply_outage hcount, apply_outage (Option.some_ne_none _).symm]
  stops := by
    rintro s ⟨⟨files, world, hblock⟩, rfl⟩
    exact ⟨_, _, step_offline hblock⟩
  below s hmiss hle := by
    rw [applies_step]
    rcases hblock : blockOf (outage none none p a waves policy) s with _ | _ | ⟨files, world⟩
    · exact hle
    · exact hle
    · have hne : s.world.2.1 ≠ n := fun h => hmiss ⟨⟨files, world, hblock⟩, h⟩
      show s.world.2.1 + 1 ≤ n
      omega
  above := by
    rintro s ⟨⟨files, world, hblock⟩, rfl⟩
    rw [applies_step, hblock]
    exact Nat.lt_succ_self _
  grows s := by
    rw [applies_step]
    exact Nat.le_add_right _ _

end Rounds

/-! ## Runs with one failing call -/

section Runs

variable (p : Provider π) (a : Applier α) (waves : WavesPolicy) (policy : FileErrorPolicy) (x : π)
  (y : α)

/-- The provider fails at one of its calls.  A run that asks no more often is as it would have been
without that; any other one ends with the error, in the state in which it asks. -/
theorem start_failingAt (n budget : Nat) :
    let whole (k : Nat) := start (outage none none p a waves policy) k ((0, x), 0, y)
    let failing := start (outage (some n) none p a waves policy) budget ((0, x), 0, y)
    let asked := provideCount (apart p a waves policy) budget (x, y)
    (asked ≤ n ∧ failing = whole budget) ∨
    (n < asked ∧ ∃ m < budget, ∃ t, whole m = ⟨none, t⟩ ∧ t.world.1.1 = n ∧
      failing = ⟨some (.error (.provider [.message s!"call {n}", .message "linter crashed"])),
        t.asked ((n + 1, t.world.1.2), t.world.2)⟩) := by
  intro whole failing asked
  have hcount := provides_counted p a waves policy x y budget
  have hgo := (cutsAt_failing p a waves policy n).go budget (s := .start ((0, x), 0, y))
    (Nat.zero_le n)
  rcases hgo with ⟨hle, hsame⟩ | ⟨hlt, m, hm, t, hwhole, ⟨hallows, rfl⟩, hcut⟩
  · exact .inl ⟨Nat.le_trans (Nat.le_of_eq hcount.symm) hle, hsame⟩
  · rw [step_failing hallows] at hcut
    exact .inr ⟨Nat.lt_of_lt_of_eq hlt hcount, m, hm, t, hwhole, rfl, hcut⟩

/-- The applier fails as a whole at one of its calls.  A run that has no more waves applied is as it
would have been; any other one ends with the error, and of the wave nothing is applied. -/
theorem start_offlineAt (n budget : Nat) :
    let whole (k : Nat) := start (outage none none p a waves policy) k ((0, x), 0, y)
    let offline := start (outage none (some n) p a waves policy) budget ((0, x), 0, y)
    let given := (applied (apart p a waves policy) budget (x, y)).length
    (given ≤ n ∧ offline = whole budget) ∨
    (n < given ∧ ∃ m < budget, ∃ t files world, whole m = ⟨none, t⟩ ∧ t.world.2.1 = n ∧
      blockOf (outage none none p a waves policy) t = some (.wave files world) ∧
      offline = ⟨some (.error (.apply (.other "applier offline"))),
        (t.provided world ⟨some files⟩).applied ⟨some files⟩ (world.1, n + 1, world.2.2) []⟩) := by
  intro whole offline given
  have hcount := applies_counted p a waves policy x y budget
  have hgo := (cutsAt_offline p a waves policy n).go budget (s := .start ((0, x), 0, y))
    (Nat.zero_le n)
  rcases hgo with ⟨hle, hsame⟩ | ⟨hlt, m, hm, t, hwhole, ⟨⟨files, world, hblock⟩, rfl⟩, hcut⟩
  · exact .inl ⟨Nat.le_trans (Nat.le_of_eq hcount.symm) hle, hsame⟩
  · rw [step_offline hblock] at hcut
    exact .inr ⟨Nat.lt_of_lt_of_eq hlt hcount, m, hm, t, files, world, hwhole, rfl, hblock, hcut⟩

end Runs

end Run

end EditWaves
