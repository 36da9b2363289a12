import EditWaves.Proofs.Run.Results

/-!
# The rounds of a run

A run is a sequence of rounds, and each in which the provider answers with a wave is a `Block`.
What a listener is told, what is called and which waves are applied in the course of a run is what
the blocks say, one after the other, and a little more at the end.

* `go_of_running`, `go_of_ended`: a run in two parts.
* `collected_go`: whatever each round adds, the run has collected it from its blocks.
* `events_start`, `calls_blocks`, `history_blocks`: events, calls and waves of a run.
* `stopsBy_blocks`: which block is the last when the run is stopped.
-/

namespace EditWaves

/-- A round in which the provider has answered with a wave. -/
inductive Block (σ : Type) where
  /-- The wave had no files. -/
  | dry
  /-- The files of the wave were applied in a world. -/
  | wave (files : FileMutations) (world : σ)

variable {σ τ : Type}

namespace Block

/-- A block seen in another world. -/
def map (f : σ → τ) : Block σ → Block τ
  | dry => dry
  | wave files world => wave files (f world)

/-- The calls that are made in a block. -/
def calls : Block σ → List Call
  | dry => [.provide]
  | wave files _ => [.provide, .apply files]

/-- The wave that is applied in a block, and what comes of it. -/
def applied? (settings : RunSettings σ) : Block σ → Option AppliedWave
  | dry => none
  | wave files world => some ⟨files, (settings.applier.apply world files).1⟩

/-- What a listener is told in a block. -/
def events (settings : RunSettings σ) : Block σ → Log
  | dry => [.provideBegin, .provideEnd .dry]
  | wave files world =>
    [.provideBegin, .provideEnd ⟨some files⟩, .waveBegin ⟨some files⟩] ++
      Log.events (settings.applier.apply world files).2.2 ++ [.waveEnd ⟨some files⟩]

end Block

namespace Run

variable {settings : RunSettings σ} {s t : State σ}

/-! ## Rounds in a row -/

/-- How a run has ended that stops after a step. -/
def Step.ended : Step σ → Ended σ
  | next s => ⟨none, s⟩
  | stop outcome s => ⟨some outcome, s⟩

theorem Step.state_ended (u : Step σ) : u.ended.state = u.state := by
  cases u <;> rfl

/-- A run that has not ended goes on as it would from there. -/
theorem go_of_running {m : Nat} (hgo : go settings m s = ⟨none, t⟩) (budget : Nat) :
    go settings (m + budget) s = go settings budget t := by
  induction m generalizing s with
  | zero =>
    cases hgo
    rw [Nat.zero_add]
  | succ m ih =>
    rw [go] at hgo
    rw [Nat.succ_add, go]
    cases hstep : step settings s with
    | next u =>
      rw [hstep] at hgo
      exact ih hgo
    | stop outcome u =>
      rw [hstep] at hgo
      cases hgo

/-- A run that has ended stays as it is. -/
theorem go_of_ended {m : Nat} {outcome : Except RunError Results}
    (hgo : go settings m s = ⟨some outcome, t⟩) (budget : Nat) :
    go settings (m + budget) s = ⟨some outcome, t⟩ := by
  induction m generalizing s with
  | zero => cases hgo
  | succ m ih =>
    rw [go] at hgo
    rw [Nat.succ_add, go]
    cases hstep : step settings s with
    | next u =>
      rw [hstep] at hgo
      exact ih hgo
    | stop o u =>
      rw [hstep] at hgo
      exact hgo

/-- One more round of a run that has not ended. -/
theorem go_succ_of_running {m : Nat} (hgo : go settings m s = ⟨none, t⟩) :
    go settings (m + 1) s = (step settings t).ended := by
  rw [go_of_running hgo 1, go]
  cases step settings t <;> rfl

/-! ## Blocks -/

/-- The block of the next round, if the provider is asked and answers. -/
def blockOf (settings : RunSettings σ) (s : State σ) : Option (Block σ) :=
  if settings.waves.allows s.wave then
    match settings.provider.provide s.world with
    | (.ok ⟨none⟩, _) => some .dry
    | (.ok ⟨some files⟩, world) => some (.wave files world)
    | (.error _, _) => none
  else none

theorem blockOf_capped (hallows : settings.waves.allows s.wave = false) :
    blockOf settings s = none := by
  rw [blockOf, hallows]
  rfl

theorem blockOf_failed {chain : Chain} {world : σ}
    (hprovide : settings.provider.provide s.world = (.error chain, world)) :
    blockOf settings s = none := by
  rw [blockOf, hprovide]
  exact ite_self _

theorem blockOf_dry {world : σ} (hallows : settings.waves.allows s.wave = true)
    (hprovide : settings.provider.provide s.world = (.ok ⟨none⟩, world)) :
    blockOf settings s = some .dry := by
  rw [blockOf, if_pos hallows, hprovide]

theorem blockOf_files {world : σ} {files : FileMutations}
    (hallows : settings.waves.allows s.wave = true)
    (hprovide : settings.provider.provide s.world = (.ok ⟨some files⟩, world)) :
    blockOf settings s = some (.wave files world) := by
  rw [blockOf, if_pos hallows, hprovide]

/-- A wave is applied if the provider is asked and offers one with files. -/
theorem blockOf_eq_wave_iff {files : FileMutations} {world : σ} :
    blockOf settings s = some (.wave files world) ↔ settings.waves.allows s.wave = true ∧
      settings.provider.provide s.world = (.ok ⟨some files⟩, world) := by
  constructor
  · intro h
    cases hallows : settings.waves.allows s.wave with
    | false =>
      rw [blockOf_capped hallows] at h
      cases h
    | true =>
      rcases hprovide : settings.provider.provide s.world with ⟨chain | ⟨_ | _⟩, _⟩
      · rw [blockOf_failed hprovide] at h
        cases h
      · rw [blockOf_dry hallows hprovide] at h
        cases h
      · rw [blockOf_files hallows hprovide] at h
        cases h
        exact ⟨rfl, rfl⟩
  · rintro ⟨hallows, hprovide⟩
    exact blockOf_files hallows hprovide

/-- The blocks of a run from a state on. -/
def blocksFrom (settings : RunSettings σ) : Nat → State σ → List (Block σ)
  | 0, _ => []
  | budget + 1, s => (blockOf settings s).toList ++
    match step settings s with
    | .next t => blocksFrom settings budget t
    | .stop _ _ => []

/-- The blocks of a run. -/
def blocks (settings : RunSettings σ) (budget : Nat) (world : σ) : List (Block σ) :=
  blocksFrom settings budget (.start world)

/-- What each round adds to a list is collected from the blocks of the run, and from its end. -/
theorem collected_go {α : Type} (list : State σ → List α) (add : Block σ → List α)
    (last : Option (Except RunError Results) → List α) (hlast : last none = [])
    (hstep : ∀ s, list (step settings s).state = list s ++
      (blockOf settings s).toList.flatMap add ++ last (step settings s).ended.outcome)
    (budget : Nat) (s : State σ) :
    list (go settings budget s).state = list s ++
      (blocksFrom settings budget s).flatMap add ++ last (go settings budget s).outcome := by
  induction budget generalizing s with
  | zero => simp [go, blocksFrom, hlast]
  | succ budget ih =>
    have hs := hstep s
    rw [go, blocksFrom]
    cases hnext : step settings s with
    | next t =>
      rw [hnext, Step.ended, hlast] at hs
      show list (go settings budget t).state = _
      rw [ih t, show list t = _ from hs]
      simp only [List.flatMap_append, List.append_assoc, List.nil_append]
    | stop outcome t =>
      rw [hnext] at hs
      rw [List.append_nil]
      exact hs

/-- The blocks of a run that is seen in another world. -/
theorem Simulates.blockOf {f : σ → τ} {first : RunSettings σ} {second : RunSettings τ}
    (h : Simulates f first second) (s : State σ) :
    Run.blockOf second (s.map f) = (Run.blockOf first s).map (Block.map f) := by
  have hprovide := h.provide s.world
  cases hallows : first.waves.allows s.wave with
  | false =>
    have hsecond : second.waves.allows (s.map f).wave = false := h.waves ▸ hallows
    rw [blockOf_capped hallows, blockOf_capped hsecond]
    rfl
  | true =>
    have hsecond : second.waves.allows (s.map f).wave = true := h.waves ▸ hallows
    rcases hfirst : first.provider.provide s.world with ⟨chain | ⟨_ | files⟩, world⟩
    · rw [hfirst] at hprovide
      rw [blockOf_failed hfirst, blockOf_failed hprovide]
      rfl
    · rw [hfirst] at hprovide
      rw [blockOf_dry hallows hfirst, blockOf_dry hsecond hprovide]
      rfl
    · rw [hfirst] at hprovide
      rw [blockOf_files hallows hfirst, blockOf_files hsecond hprovide]
      rfl

theorem Simulates.blocksFrom {f : σ → τ} {first : RunSettings σ} {second : RunSettings τ}
    (h : Simulates f first second) (budget : Nat) (s : State σ) :
    Run.blocksFrom second budget (s.map f)
      = (Run.blocksFrom first budget s).map (Block.map f) := by
  induction budget generalizing s with
  | zero => rfl
  | succ budget ih =>
    rw [Run.blocksFrom, Run.blocksFrom, h.blockOf, h.step, List.map_append]
    have hblock : ((Run.blockOf first s).map (Block.map f)).toList
        = (Run.blockOf first s).toList.map (Block.map f) := by
      cases Run.blockOf first s <;> rfl
    rw [hblock]
    cases Run.step first s with
    | next t => exact congrArg _ (ih t)
    | stop outcome t => rfl

/-! ## Events -/

/-- What a listener is told after the last block: that the run is over if it has come to its end,
and that the provider was asked if it did not answer. -/
def closing : Option (Except RunError Results) → Log
  | some (.ok results) => [.runEnd results]
  | some (.error (.provider _)) => [.provideBegin]
  | _ => []

theorem events_append (l₁ l₂ : Log) : Log.events (l₁ ++ l₂) = Log.events l₁ ++ Log.events l₂ :=
  List.filter_append l₁ l₂

/-- What a listener is told in a dry round. -/
theorem events_dryWave :
    Log.events (dryWave settings s).state.log
      = Log.events s.log ++ closing (dryWave settings s).ended.outcome := by
  rw [dryWave]
  split
  · exact events_append s.log [_]
  · exact events_append s.log [_]

/-- What a listener is told while a wave is applied, whatever comes of it. -/
theorem events_applyWave (settings : RunSettings σ) (s : State σ) (w : Wave)
    (files : FileMutations) :
    Log.events (applyWave settings s w files).state.log
      = Log.events s.log ++ (.waveBegin w ::
          Log.events (settings.applier.apply s.world files).2.2 ++ [.waveEnd w]) ∧
      closing (applyWave settings s w files).ended.outcome = [] := by
  have hlog : ∀ world log, Log.events (s.applied w world log).log
      = Log.events s.log ++ (.waveBegin w :: Log.events log ++ [.waveEnd w]) := by
    intro world log
    simp [State.applied, Log.events, Entry.isNote]
  rcases happly : settings.applier.apply s.world files with ⟨outcome, world, log⟩
  rcases outcome with (failures | reason) | _
  · cases hpolicy : settings.onFileError with
    | abort =>
      rw [applyWave_abort hpolicy happly]
      exact ⟨hlog world log, rfl⟩
    | proceed =>
      rw [applyWave_proceed hpolicy happly]
      refine ⟨?_, rfl⟩
      refine (events_append (s.applied w world log).log [_]).trans ?_
      rw [hlog]
      exact List.append_nil _
  · rw [applyWave_other happly]
    exact ⟨hlog world log, rfl⟩
  · rw [applyWave_ok happly]
    exact ⟨hlog world log, rfl⟩

/-- What a listener is told in one round. -/
theorem events_step (s : State σ) :
    Log.events (step settings s).state.log = Log.events s.log ++
      (blockOf settings s).toList.flatMap (Block.events settings) ++
        closing (step settings s).ended.outcome := by
  cases hallows : settings.waves.allows s.wave with
  | false =>
    rw [step_capped hallows, blockOf_capped hallows]
    simp [finish, Step.state, Step.ended, closing, Log.events, Entry.isNote]
  | true =>
    rcases hprovide : settings.provider.provide s.world with ⟨chain | ⟨_ | files⟩, world⟩
    · rw [step_failed hallows hprovide, blockOf_failed hprovide]
      simp [State.asked, Step.state, Step.ended, closing, Log.events, Entry.isNote]
    · rw [step_dry hallows hprovide rfl, blockOf_dry hallows hprovide, events_dryWave]
      simp [State.asked, State.provided, Block.events, Log.events, Entry.isNote, Wave.dry]
    · obtain ⟨hevents, hclosing⟩ :=
        events_applyWave settings (s.provided world ⟨some files⟩) ⟨some files⟩ files
      rw [step_files hallows hprovide rfl, blockOf_files hallows hprovide, hevents, hclosing]
      simp [State.asked, State.provided, Block.events, Log.events, Entry.isNote]

/-- The events of a run. -/
theorem events_start (budget : Nat) (world : σ) :
    Log.events (start settings budget world).state.log
      = .runBegin :: (blocks settings budget world).flatMap (Block.events settings) ++
        closing (start settings budget world).outcome :=
  collected_go (fun s => Log.events s.log) _ closing rfl events_step budget (.start world)

/-! ## Calls and waves -/

/-- The calls after the last block: the provider was asked and did not answer. -/
def closingCalls : Option (Except RunError Results) → List Call
  | some (.error (.provider _)) => [.provide]
  | _ => []

/-- Settings under which the world keeps the calls that were made, and `told` finds them. -/
structure KeepsCalls (settings : RunSettings σ) (told : σ → List Call) : Prop where
  provide (s : σ) : told (settings.provider.provide s).2 = told s ++ [.provide]
  apply (s : σ) (files : FileMutations) :
    told (settings.applier.apply s files).2.1 = told s ++ [.apply files]

/-- Settings under which the world keeps the waves that were applied, and `past` finds them. -/
structure KeepsWaves (settings : RunSettings σ) (past : σ → List AppliedWave) : Prop where
  provide (s : σ) : past (settings.provider.provide s).2 = past s
  apply (s : σ) (files : FileMutations) : past (settings.applier.apply s files).2.1
    = past s ++ [⟨files, (settings.applier.apply s files).1⟩]

theorem closingCalls_dryWave : closingCalls (dryWave settings s).ended.outcome = [] := by
  rw [dryWave]
  split <;> rfl

theorem closingCalls_applyWave (settings : RunSettings σ) (s : State σ) (w : Wave)
    (files : FileMutations) : closingCalls (applyWave settings s w files).ended.outcome = [] := by
  rcases happly : settings.applier.apply s.world files with ⟨outcome, world, log⟩
  rcases outcome with (failures | reason) | _
  · cases hpolicy : settings.onFileError with
    | abort => rw [applyWave_abort hpolicy happly]; rfl
    | proceed => rw [applyWave_proceed hpolicy happly]; rfl
  · rw [applyWave_other happly]; rfl
  · rw [applyWave_ok happly]; rfl

/-- The calls of one round. -/
theorem KeepsCalls.step {told : σ → List Call} (h : KeepsCalls settings told) (s : State σ) :
    told (Run.step settings s).state.world = told s.world ++
      (blockOf settings s).toList.flatMap Block.calls ++
        closingCalls (Run.step settings s).ended.outcome := by
  cases hallows : settings.waves.allows s.wave with
  | false =>
    rw [step_capped hallows, blockOf_capped hallows]
    simp [finish, Step.state, Step.ended, closingCalls]
  | true =>
    have hprovided := h.provide s.world
    rcases hprovide : settings.provider.provide s.world with ⟨chain | ⟨_ | files⟩, world⟩
    · rw [hprovide] at hprovided
      rw [step_failed hallows hprovide, blockOf_failed hprovide]
      simpa [Step.state, Step.ended, closingCalls, State.asked] using hprovided
    · rw [hprovide] at hprovided
      rw [step_dry hallows hprovide rfl, blockOf_dry hallows hprovide, world_dryWave,
        closingCalls_dryWave]
      simpa [Block.calls, State.provided, State.asked] using hprovided
    · rw [hprovide] at hprovided
      rw [step_files hallows hprovide rfl, blockOf_files hallows hprovide, world_applyWave,
        closingCalls_applyWave]
      have happlied := h.apply world files
      rw [hprovided] at happlied
      simpa [Block.calls, State.provided, State.asked] using happlied

/-- The wave of one round. -/
theorem KeepsWaves.step {past : σ → List AppliedWave} (h : KeepsWaves settings past) (s : State σ) :
    past (Run.step settings s).state.world = past s.world ++
      (blockOf settings s).toList.flatMap (fun b => (b.applied? settings).toList) := by
  cases hallows : settings.waves.allows s.wave with
  | false =>
    rw [step_capped hallows, blockOf_capped hallows]
    exact (List.append_nil _).symm
  | true =>
    have hprovided := h.provide s.world
    rcases hprovide : settings.provider.provide s.world with ⟨chain | ⟨_ | files⟩, world⟩
    · rw [hprovide] at hprovided
      rw [step_failed hallows hprovide, blockOf_failed hprovide]
      exact hprovided.trans (List.append_nil _).symm
    · rw [hprovide] at hprovided
      rw [step_dry hallows hprovide rfl, blockOf_dry hallows hprovide, world_dryWave]
      exact hprovided.trans (List.append_nil _).symm
    · rw [hprovide] at hprovided
      rw [step_files hallows hprovide rfl, blockOf_files hallows hprovide, world_applyWave,
        ← hprovided]
      exact h.apply world files

theorem Block.calls_map (f : σ → τ) (b : Block σ) : (b.map f).calls = b.calls := by
  cases b <;> rfl

/-- The calls of a run. -/
theorem calls_blocks (settings : RunSettings σ) (budget : Nat) (world : σ) :
    calls settings budget world = (blocks settings budget world).flatMap Block.calls ++
      closingCalls (start settings budget world).outcome := by
  have hkeeps : KeepsCalls settings.recorded (fun s => s.2) := ⟨fun _ => rfl, fun _ _ => rfl⟩
  have hcalls := collected_go (fun s => s.world.2) Block.calls closingCalls rfl hkeeps.step budget
    (.start (world, []))
  have hblocks : blocks settings budget world
      = (blocksFrom settings.recorded budget (.start (world, []))).map (Block.map Prod.fst) :=
    (simulates_recorded settings).blocksFrom budget (.start (world, []))
  rw [hblocks, List.flatMap_map, ← start_recorded settings budget world []]
  simp only [Block.calls_map]
  exact hcalls

/-- The waves of a run. -/
theorem history_blocks (settings : RunSettings σ) (budget : Nat) (world : σ) :
    history settings budget world
      = (blocks settings budget world).filterMap (Block.applied? settings) := by
  have hkeeps : KeepsWaves settings.chronicled (fun s => s.2) := ⟨fun _ => rfl, fun _ _ => rfl⟩
  have hhistory := collected_go (fun s : State (σ × List AppliedWave) => s.world.2) _
    (fun _ => []) rfl (fun s => (hkeeps.step s).trans (List.append_nil _).symm) budget
    (.start (world, []))
  have hblocks : blocks settings budget world
      = (blocksFrom settings.chronicled budget (.start (world, []))).map (Block.map Prod.fst) :=
    (simulates_chronicled settings).blocksFrom budget (.start (world, []))
  have happlied : ∀ b : Block (σ × List AppliedWave),
      (b.map Prod.fst).applied? settings = b.applied? settings.chronicled := by
    rintro (_ | _) <;> rfl
  rw [hblocks, List.filterMap_map, List.filterMap_eq_flatMap_toList]
  simp only [Function.comp_apply, happlied]
  exact hhistory.trans (List.append_nil _)

/-! ## Runs that are stopped -/

/-- If a run is stopped by what comes of a wave, this wave is its last block. -/
def StopsBy (settings : RunSettings σ) (l : List (Block σ)) :
    Option (Except RunError Results) → Prop
  | some (.error (.aborted source _)) => ∃ past files world failures,
      l = past ++ [.wave files world] ∧ source = .files failures ∧
        (settings.applier.apply world files).1 = .error source
  | some (.error (.apply source)) => ∃ past files world reason,
      l = past ++ [.wave files world] ∧ source = .other reason ∧
        (settings.applier.apply world files).1 = .error source
  | _ => True

theorem StopsBy.append {l : List (Block σ)} {outcome : Option (Except RunError Results)}
    (h : StopsBy settings l outcome) (front : List (Block σ)) :
    StopsBy settings (front ++ l) outcome := by
  rcases outcome with _ | (_ | _ | _) | _
  case none => trivial
  case some.error.provider => trivial
  case some.error.aborted =>
    obtain ⟨past, files, world, failures, rfl, hsource⟩ := h
    exact ⟨front ++ past, files, world, failures, by rw [List.append_assoc], hsource⟩
  case some.error.apply =>
    obtain ⟨past, files, world, reason, rfl, hsource⟩ := h
    exact ⟨front ++ past, files, world, reason, by rw [List.append_assoc], hsource⟩
  case some.ok => trivial

theorem stopsBy_dryWave (l : List (Block σ)) :
    StopsBy settings l (dryWave settings s).ended.outcome := by
  rw [dryWave]
  split <;> trivial

theorem stopsBy_applyWave (settings : RunSettings σ) (s : State σ) (w : Wave)
    (files : FileMutations) :
    StopsBy settings [.wave files s.world] (applyWave settings s w files).ended.outcome := by
  rcases happly : settings.applier.apply s.world files with ⟨outcome, world, log⟩
  rcases outcome with (failures | reason) | _
  · cases hpolicy : settings.onFileError with
    | abort =>
      rw [applyWave_abort hpolicy happly]
      exact ⟨[], files, s.world, failures, rfl, rfl, by rw [happly]⟩
    | proceed =>
      rw [applyWave_proceed hpolicy happly]
      trivial
  · rw [applyWave_other happly]
    exact ⟨[], files, s.world, reason, rfl, rfl, by rw [happly]⟩
  · rw [applyWave_ok happly]
    trivial

theorem stopsBy_step (s : State σ) :
    StopsBy settings (blockOf settings s).toList (step settings s).ended.outcome := by
  cases hallows : settings.waves.allows s.wave with
  | false =>
    rw [step_capped hallows]
    trivial
  | true =>
    rcases hprovide : settings.provider.provide s.world with ⟨chain | ⟨_ | files⟩, world⟩
    · rw [step_failed hallows hprovide]
      trivial
    · rw [step_dry hallows hprovide rfl]
      exact stopsBy_dryWave _
    · rw [step_files hallows hprovide rfl, blockOf_files hallows hprovide]
      exact stopsBy_applyWave settings (s.provided world ⟨some files⟩) ⟨some files⟩ files

/-- A run that is stopped by what comes of a wave ends with this wave. -/
theorem stopsBy_blocks (settings : RunSettings σ) (budget : Nat) (world : σ) :
    StopsBy settings (blocks settings budget world) (start settings budget world).outcome := by
  have hgo : ∀ budget (s : State σ),
      StopsBy settings (blocksFrom settings budget s) (go settings budget s).outcome := by
    intro budget
    induction budget with
    | zero => exact fun _ => trivial
    | succ budget ih =>
      intro s
      have hstep : StopsBy settings _ (step settings s).ended.outcome := stopsBy_step s
      rw [go, blocksFrom]
      cases hnext : step settings s with
      | next t => exact (ih t).append _
      | stop outcome t =>
        rw [hnext] at hstep
        rw [List.append_nil]
        exact hstep
  exact hgo budget _

end Run

end EditWaves
