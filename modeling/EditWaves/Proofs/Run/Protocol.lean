import EditWaves.Proofs.Run.Blocks
import EditWaves.Proofs.Workspace.Reports

/-!
# The protocol of a run

Everything that a listener is told of a run follows one protocol, whatever provides the waves,
whichever files fail and in whatever order the pipelines of a wave take their steps: after the
begin of the run one block for each wave that is provided, and after the last one only the end of
the run, if it has one, or that the provider was asked once more, if it did not answer.

* `Applier.RunsPipelines`: appliers that run the pipelines of a wave in some order.
* `waveEvents_of_runsPipelines`: what a listener is told while such an applier applies a wave.
* `run_protocol`: the events of a run.
-/

namespace EditWaves

variable {σ φ : Type} [FileAccess φ]

/-- An applier that runs the pipelines of each wave until all are done, in an order that may be
another one each time. -/
def Applier.RunsPipelines (a : Applier σ) (workspace : σ → Workspace φ) : Prop :=
  ∀ s files, ∃ schedule,
    let p := (Progress.start (workspace s)).advanceAll files schedule
    p.Finished files ∧ (a.apply s files).1 = p.outcome files ∧
      workspace (a.apply s files).2.1 = p.workspace ∧
      (a.apply s files).2.2 = .applyBegin files :: p.log ++
        .applyEnd files :: (p.failures files.entries).map (fun f => .failed f.1 f.2)

/-- A workspace takes one file after the other. -/
theorem runsPipelines_workspace {π : Type} :
    (Workspace.applier.second : Applier (π × Workspace φ)).RunsPipelines Prod.snd := by
  intro s files
  have hserial := Progress.apply_serial files s.2
  refine ⟨Progress.serial files.entries,
    Progress.finished_advanceAll (fun name hname => Progress.three_le_count_serial hname), ?_⟩
  exact ⟨congrArg Prod.fst hserial, congrArg (fun r => r.2.1) hserial,
    congrArg (fun r => r.2.2) hserial⟩

namespace Run

/-- How a wave goes whose pipelines take their steps in the order of a schedule, and what a listener
is told: that it begins, what the report of the pipelines says, and that it ends. -/
structure WaveEvents (settings : RunSettings σ) (workspace : σ → Workspace φ)
    (files : FileMutations) (before : σ) (schedule : List String) (p : Progress φ) : Prop where
  ran : p = (Progress.start (workspace before)).advanceAll files schedule
  finished : p.Finished files
  outcome : (settings.applier.apply before files).1 = p.outcome files
  left : workspace (settings.applier.apply before files).2.1 = p.workspace
  events : Block.events settings (.wave files before)
    = [.provideBegin, .provideEnd ⟨some files⟩, .waveBegin ⟨some files⟩, .applyBegin files] ++
        Log.events p.log ++ [.applyEnd files] ++
        (p.failures files.entries).map (fun f => .failed f.1 f.2) ++ [.waveEnd ⟨some files⟩]
  report : p.WaveReport (workspace before) files schedule

variable {settings : RunSettings σ} {workspace : σ → Workspace φ}

/-- What a listener is told of a wave whose pipelines are run. -/
theorem waveEvents_of_runsPipelines (happlier : settings.applier.RunsPipelines workspace)
    (files : FileMutations) (before : σ) :
    ∃ schedule p, WaveEvents settings workspace files before schedule p := by
  obtain ⟨schedule, hdone, houtcome, hleft, hlog⟩ := happlier before files
  refine ⟨schedule, _, rfl, hdone, houtcome, hleft, ?_,
    Progress.waveReport_advanceAll schedule hdone⟩
  have hbegin : ∀ log : Log, Log.events (.applyBegin files :: log)
      = .applyBegin files :: Log.events log := fun _ => rfl
  have hend : ∀ log : Log, Log.events (.applyEnd files :: log)
      = .applyEnd files :: Log.events log := fun _ => rfl
  have hfailed : ∀ failures : List (String × FileError),
      Log.events (failures.map (fun f => Entry.failed f.1 f.2))
        = failures.map (fun f => Entry.failed f.1 f.2) := by
    intro failures
    refine List.filter_eq_self.2 ?_
    intro e he
    obtain ⟨f, -, rfl⟩ := List.mem_map.1 he
    rfl
  rw [Block.events, hlog, events_append, hbegin, hend, hfailed]
  simp only [List.cons_append, List.append_assoc, List.nil_append]

/-- Whatever provides the waves of a run and whichever files fail, a listener is told that the run
begins, then of one block for each wave that is provided, and then that the run is over if it comes
to its end, or that the provider was asked again if it did not answer.  If the run is stopped, then
by files that failed, and theirs is the last block.  What is told of a wave says for each file which
mutations were applied to it, and at the end which files failed. -/
theorem run_protocol (settings : RunSettings σ) (workspace : σ → Workspace φ)
    (happlier : settings.applier.RunsPipelines workspace) (budget : Nat) (world : σ) :
    let l := blocks settings budget world
    let outcome := (start settings budget world).outcome
    Log.events (start settings budget world).state.log
        = .runBegin :: l.flatMap (Block.events settings) ++ closing outcome ∧
      calls settings budget world = l.flatMap Block.calls ++ closingCalls outcome ∧
      (∀ source, outcome ≠ some (.error (.apply source))) ∧
      (∀ source results, outcome = some (.error (.aborted source results)) →
        ∃ past files before failures, l = past ++ [.wave files before] ∧
          source = .files failures ∧ (settings.applier.apply before files).1 = .error source) ∧
      ∀ files before, ∃ schedule p, WaveEvents settings workspace files before schedule p := by
  intro l outcome
  have hstops : StopsBy settings l outcome := stopsBy_blocks settings budget world
  refine ⟨events_start budget world, calls_blocks settings budget world, ?_, ?_,
    waveEvents_of_runsPipelines happlier⟩
  · intro source hsource
    rw [hsource] at hstops
    obtain ⟨past, files, before, reason, -, rfl, hother⟩ := hstops
    obtain ⟨schedule, -, hfiles, -⟩ := happlier before files
    rw [hother, Progress.outcome] at hfiles
    split at hfiles <;> cases hfiles
  · intro source results hsource
    rw [hsource] at hstops
    exact hstops

/-- A dry wave below the minimum, and one of which a file fails. -/
theorem run_protocol_two_waves :
    let files : FileMutations := .ofList [("a.txt", []), ("b.txt", [])]
    let store : Store := ⟨.ofList [("a.txt", .new "one" [] []), ("b.txt", .new "two" [0] [])]⟩
    let settings : RunSettings (List Wave × Workspace Store) :=
      ⟨Source.queue.first, Workspace.applier.second, ⟨1, none⟩, .abort⟩
    let world := ([.dry, ⟨some files⟩], Workspace.new store .builtins)
    settings.applier.RunsPipelines Prod.snd ∧
      .runBegin :: (blocks settings 3 world).flatMap (Block.events settings) ++
          closing (start settings 3 world).outcome
        = [.runBegin, .provideBegin, .provideEnd .dry, .provideBegin, .provideEnd ⟨some files⟩,
          .waveBegin ⟨some files⟩, .applyBegin files, .applyEnd files,
          .failed "b.txt" (.other "read rejected"), .waveEnd ⟨some files⟩] ∧
      ∃ past files before, blocks settings 3 world = past ++ [.wave files before] := by
  intro files store settings world
  have happlier : settings.applier.RunsPipelines Prod.snd := runsPipelines_workspace
  obtain ⟨hevents, -, -, haborted, -⟩ := run_protocol settings Prod.snd happlier 3 world
  obtain ⟨past, last, before, -, hlast, -⟩ := haborted _ _ rfl
  exact ⟨happlier, hevents.symm, past, last, before, hlast⟩

end Run

end EditWaves
