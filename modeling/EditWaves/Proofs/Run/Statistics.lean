import EditWaves.Proofs.Run.Protocol
import EditWaves.Proofs.Workspace.Tally

/-!
# The statistics of a run

The counters of a run are moved by its log, one entry after the other.  What they come to in the
end can be said without the log, from the waves that the run applies and from what the pipelines of
these read.

* `Stats.value_ofLog`: each counter counts the entries that move it.
* `count_start`: the entries of a run are those of its rounds.
* `count_wave`: the entries of a round.
* `stats_add_up`: all counters of a run.
-/

namespace EditWaves

/-! ## Counters -/

/-- One of the counters. -/
inductive Counter where
  | waves
  | unknown
  | failedFiles
  /-- The mutations that were applied to a file. -/
  | applied (file : String)
deriving DecidableEq

/-- The counter that an entry moves. -/
def Entry.counter? : Entry → Option Counter
  | .applied file _ => some (.applied file)
  | .unknown _ => some .unknown
  | .waveBegin _ => some .waves
  | .failed _ _ => some .failedFiles
  | _ => none

namespace Log

/-- How many entries move a counter. -/
def count (c : Counter) (log : Log) : Nat := log.countP (fun e => e.counter? = some c)

variable (c : Counter)

@[simp] theorem count_append (l₁ l₂ : Log) : count c (l₁ ++ l₂) = count c l₁ + count c l₂ :=
  List.countP_append

theorem count_cons (e : Entry) (log : Log) :
    count c (e :: log) = count c log + if e.counter? = some c then 1 else 0 := by
  simp [count, List.countP_cons]

theorem count_flatMap {α : Type} (l : List α) (f : α → Log) :
    count c (l.flatMap f) = (l.map (fun a => count c (f a))).sum := by
  rw [count, List.countP_flatMap]
  rfl

/-- Notes move no counter. -/
theorem count_events (log : Log) : count c (events log) = count c log := by
  rw [count, count, events, List.countP_filter]
  refine List.countP_congr ?_
  intro e _
  cases e <;> simp [Entry.counter?, Entry.isNote]

theorem count_unknown (log : Log) : count .unknown log = (skipped log).length := by
  rw [count, skipped, List.length_filterMap_eq_countP]
  refine List.countP_congr ?_
  intro e _
  cases e <;> simp [Entry.counter?]

theorem count_applied (file : String) (log : Log) :
    count (.applied file) log = (appliedTo file log).length := by
  rw [count, appliedTo, List.length_filterMap_eq_countP]
  refine List.countP_congr ?_
  intro e _
  cases e <;> simp [Entry.counter?, Entry.appliedTo?]

end Log

namespace Stats

/-- The value of a counter. -/
def value (s : Stats) : Counter → Nat
  | .waves => s.waves
  | .unknown => s.unknown
  | .failedFiles => s.failedFiles
  | .applied file => (s.byFile.get? file).getD 0

/-- An entry moves its counter by one, and no other. -/
theorem value_step (s : Stats) (e : Entry) (c : Counter) :
    (s.step e).value c = s.value c + if e.counter? = some c then 1 else 0 := by
  cases e <;> cases c <;> simp [step, value, Entry.counter?, Dict.alter, Dict.get?_insert]
  split <;> simp_all

theorem ofLog_concat (log : Log) (e : Entry) : ofLog (log ++ [e]) = (ofLog log).step e := by
  simp [ofLog]

/-- Each counter counts the entries that move it. -/
theorem value_ofLog (log : Log) (c : Counter) : (ofLog log).value c = log.count c := by
  induction log using List.reverseRecOn with
  | nil => cases c <;> rfl
  | append_singleton log e ih =>
    rw [ofLog_concat, value_step, ih, Log.count_append, Log.count_cons]
    simp [Log.count]

/-- A file has a counter only if mutations were applied to it. -/
theorem get?_ofLog_pos {log : Log} {file : String} {n : Nat}
    (h : (ofLog log).byFile.get? file = some n) : 0 < n := by
  induction log using List.reverseRecOn generalizing n with
  | nil => cases h
  | append_singleton log e ih =>
    rw [ofLog_concat] at h
    cases e with
    | applied name m =>
      simp only [step, Dict.alter, Dict.get?_insert] at h
      split at h
      · cases h
        exact Nat.succ_pos _
      · exact ih h
    | _ => exact ih h

/-- What is counted of a file. -/
theorem get?_ofLog_iff (log : Log) (file : String) (n : Nat) :
    (ofLog log).byFile.get? file = some n ↔ n = log.count (.applied file) ∧ 0 < n := by
  have hvalue : ((ofLog log).byFile.get? file).getD 0 = log.count (.applied file) :=
    value_ofLog log (.applied file)
  rw [← hvalue]
  cases hget : (ofLog log).byFile.get? file with
  | none => simp
  | some k =>
    have hpos := get?_ofLog_pos hget
    simp only [Option.some.injEq, Option.getD_some]
    omega

/-- The mutations of all files together. -/
theorem mutations_eq (s : Stats) :
    s.mutations = (s.byFile.keys.map (fun file => s.value (.applied file))).sum := by
  have hvalues : s.byFile.values = s.byFile.keys.map (fun file => s.value (.applied file)) := by
    rw [Dict.values, Dict.keys, List.map_map]
    refine List.map_congr_left ?_
    rintro ⟨file, n⟩ he
    simp [value, Dict.mem_entries_iff.1 he]
  rw [← hvalues]
  rfl

end Stats

/-! ## Rounds -/

variable {σ φ : Type} [FileAccess φ]

/-- By how much a block moves each counter, if the pipelines of every wave take their turns in the
order of its schedule: that of the applied mutations of a file by those before the first that fails,
if the file is in the wave and can be read. -/
def Block.tally (settings : RunSettings σ) (workspace : σ → Workspace φ)
    (schedule : FileMutations → σ → List String) : Block σ → Counter → Nat
  | dry, _ => 0
  | wave _ _, .waves => 1
  | wave files before, .failedFiles =>
    (AppliedWave.mk files (settings.applier.apply before files).1).failedNames.length
  | wave files before, .unknown =>
    (files.entries.map (fun e => (workspace before).resolver.missed e.2
      (Progress.contentsRead (workspace before) files (schedule files before) e.1))).sum
  | wave files before, .applied file =>
    match files.get? file with
    | none => 0
    | some ms => (workspace before).resolver.lookup.reached ms
        (Progress.contentsRead (workspace before) files (schedule files before) file)

namespace Run

variable {settings : RunSettings σ} {workspace : σ → Workspace φ} {files : FileMutations}
  {before : σ} {turns : List String} {p : Progress φ}

/-- The entries of a run are those of its rounds. -/
theorem count_start (settings : RunSettings σ) (budget : Nat) (world : σ) (c : Counter) :
    Log.count c (start settings budget world).state.log
      = ((blocks settings budget world).map (fun b => Log.count c (b.events settings))).sum := by
  have hclosing : Log.count c (closing (start settings budget world).outcome) = 0 := by
    rcases (start settings budget world).outcome with _ | (_ | _ | _) | _ <;>
      simp [closing, Log.count, Entry.counter?]
  rw [← Log.count_events, events_start, Log.count_append, hclosing, Log.count_cons,
    Log.count_flatMap]
  simp [Entry.counter?]

theorem count_dry (c : Counter) : Log.count c (Block.events settings (.dry : Block σ)) = 0 := by
  simp [Block.events, Log.count, Entry.counter?]

/-- The entries of a wave: besides its begin those that its pipelines have reported, and one for
each file that failed. -/
theorem count_wave (h : WaveEvents settings workspace files before turns p) (c : Counter) :
    Log.count c (Block.events settings (.wave files before))
      = (if c = .waves then 1 else 0) + Log.count c p.log +
        if c = .failedFiles then (p.failures files.entries).length else 0 := by
  have hfailed : Log.count c ((p.failures files.entries).map (fun f => .failed f.1 f.2))
      = if c = .failedFiles then (p.failures files.entries).length else 0 := by
    rw [Log.count, List.countP_map]
    split
    next hc => simp [hc, Function.comp_def, Entry.counter?]
    next hc => simp [Function.comp_def, Entry.counter?, Ne.symm hc]
  have hnil : Log.count c [] = 0 := rfl
  rw [h.events]
  simp only [Log.count_append, Log.count_events, Log.count_cons, Entry.counter?, hfailed, hnil]
  simp [eq_comm]

/-- The pipelines of a wave neither begin waves nor say at the end which files failed. -/
theorem count_pipelines (h : WaveEvents settings workspace files before turns p) {c : Counter}
    (hc : c = .waves ∨ c = .failedFiles) : Log.count c p.log = 0 := by
  rw [← Log.count_events, Log.count, List.countP_eq_zero]
  intro e he
  obtain ⟨file, m, rfl⟩ | ⟨m, rfl⟩ := h.report.only e he <;> rcases hc with rfl | rfl <;>
    simp [Entry.counter?]

/-- The files that failed are counted once in each wave. -/
theorem length_failedNames (h : WaveEvents settings workspace files before turns p) :
    (AppliedWave.mk files (settings.applier.apply before files).1).failedNames.length
      = (p.failures files.entries).length := by
  simp only [AppliedWave.failedNames, h.outcome, Progress.outcome]
  cases p.failures files.entries <;> simp [ApplyError.fileNames]

/-- The pipelines of every wave take their turns in the order of its schedule. -/
def Scheduled (settings : RunSettings σ) (workspace : σ → Workspace φ)
    (schedule : FileMutations → σ → List String) : Prop :=
  ∀ files before, ∃ p, WaveEvents settings workspace files before (schedule files before) p

variable {schedule : FileMutations → σ → List String}

/-- The entries of a round. -/
theorem count_block (hschedule : Scheduled settings workspace schedule) (b : Block σ)
    (c : Counter) : Log.count c (b.events settings) = b.tally settings workspace schedule c := by
  cases b with
  | dry => exact count_dry c
  | wave files before =>
    obtain ⟨p, h⟩ := hschedule files before
    rw [count_wave h]
    cases c with
    | waves => simp [count_pipelines h, Block.tally]
    | failedFiles => simp [count_pipelines h, Block.tally, length_failedNames h]
    | unknown =>
      have hdone := h.finished
      have hskipped : (Log.skipped p.log).length = Block.tally settings workspace schedule
          (.wave files before) .unknown := by
        rw [h.ran] at hdone ⊢
        exact Progress.length_skipped_of_finished hdone
      simp [Log.count_unknown, hskipped]
    | applied file =>
      simp only [reduceCtorEq, if_false, Nat.zero_add, Nat.add_zero, Log.count_applied, Block.tally]
      cases hms : files.get? file with
      | none =>
        rw [← Log.appliedTo_events, h.report.others file hms]
        rfl
      | some ms =>
        obtain ⟨outcome, -, hreport⟩ := h.report.file file ms hms
        rw [Log.appliedTo_events] at hreport
        exact Lookup.length_of_fileReport hreport

/-! ## Runs -/

/-- Each counter is moved by the rounds of the run. -/
theorem value_stats (hschedule : Scheduled settings workspace schedule) (budget : Nat) (world : σ)
    (c : Counter) : (Stats.ofLog (start settings budget world).state.log).value c
      = ((blocks settings budget world).map
          (fun b => b.tally settings workspace schedule c)).sum := by
  rw [Stats.value_ofLog, count_start]
  simp only [count_block hschedule]

variable (workspace schedule) in
/-- Each wave that is applied counts. -/
theorem sum_tally_waves (l : List (Block σ)) :
    (l.map (fun b => b.tally settings workspace schedule .waves)).sum
      = (l.filterMap (Block.applied? settings)).length := by
  induction l with
  | nil => rfl
  | cons b l ih =>
    rw [List.map_cons, List.sum_cons, ih]
    cases b <;> simp [Block.tally, Block.applied?, List.filterMap_cons, Nat.add_comm]

variable (workspace schedule) in
/-- The files that failed count in each wave. -/
theorem sum_tally_failedFiles (l : List (Block σ)) :
    (l.map (fun b => b.tally settings workspace schedule .failedFiles)).sum
      = ((l.filterMap (Block.applied? settings)).map (fun a => a.failedNames.length)).sum := by
  induction l with
  | nil => rfl
  | cons b l ih =>
    rw [List.map_cons, List.sum_cons, ih]
    cases b <;> simp [Block.tally, Block.applied?, List.filterMap_cons]

/-- Whatever provides the waves of a run, whichever files fail and in whatever order the pipelines
of a wave take their turns, its counters come to this: the waves that the applier was given; the
files that failed, in each wave again; the dispatches that found no mutator while the kept mutations
of a file were applied to what was read, at whatever depth; and for each file the kept mutations
that were applied to it, up to the first that failed, whether or not it could be written then.  A
file to which none was applied has no counter. -/
theorem stats_add_up (settings : RunSettings σ) (workspace : σ → Workspace φ)
    (happlier : settings.applier.RunsPipelines workspace) (budget : Nat) (world : σ) :
    ∃ schedule, Scheduled settings workspace schedule ∧
      let stats := Stats.ofLog (start settings budget world).state.log
      let rounds := blocks settings budget world
      let total (c : Counter) : Nat :=
        (rounds.map (fun b => b.tally settings workspace schedule c)).sum
      stats.waves = (applied settings budget world).length ∧
      stats.failedFiles
        = ((history settings budget world).map (fun a => a.failedNames.length)).sum ∧
      stats.unknown = total .unknown ∧
      (∀ file n, stats.byFile.get? file = some n ↔ n = total (.applied file) ∧ 0 < n) ∧
      ∃ names : List String, names.Nodup ∧ (∀ file, file ∈ names ↔ 0 < total (.applied file)) ∧
        stats.mutations = (names.map (fun file => total (.applied file))).sum ∧
        stats.files = names.length := by
  have hwaves : ∀ files before, ∃ turns p, WaveEvents settings workspace files before turns p :=
    waveEvents_of_runsPipelines happlier
  choose schedule hevents using hwaves
  have hschedule : Scheduled settings workspace schedule := hevents
  refine ⟨schedule, hschedule, ?_⟩
  intro stats rounds total
  have hvalue : ∀ c, stats.value c = total c := value_stats hschedule budget world
  have hfile : ∀ file n, stats.byFile.get? file = some n ↔ n = total (.applied file) ∧ 0 < n := by
    intro file n
    rw [Stats.get?_ofLog_iff, ← Stats.value_ofLog, hvalue]
  refine ⟨?_, ?_, hvalue .unknown, hfile, stats.byFile.keys, stats.byFile.nodup_keys, ?_, ?_, ?_⟩
  · rw [← files_history, List.length_map, history_blocks, ← sum_tally_waves workspace schedule]
    exact hvalue .waves
  · rw [history_blocks, ← sum_tally_failedFiles workspace schedule]
    exact hvalue .failedFiles
  · intro file
    rw [Dict.mem_keys_iff]
    simp only [hfile]
    constructor
    · rintro ⟨n, rfl, hn⟩
      exact hn
    · intro hn
      exact ⟨_, rfl, hn⟩
  · rw [Stats.mutations_eq]
    simp only [hvalue]
  · simp [Stats.files, Dict.size, Dict.keys]

/-- A wave in which a mutation of one file is skipped and the other file fails. -/
theorem stats_add_up_two_files :
    let files : FileMutations := .ofList [("a", [.custom (.point 0) "lint" .empty]), ("b", [])]
    let store : Store := ⟨.ofList [("a", .new "one" [] [])]⟩
    let settings : RunSettings (List Wave × Workspace Store) :=
      ⟨Source.queue.first, Workspace.applier.second, ⟨0, none⟩, .proceed⟩
    let world := ([⟨some files⟩], Workspace.new store .builtins)
    let stats := Stats.ofLog (start settings 2 world).state.log
    settings.applier.RunsPipelines Prod.snd ∧ stats.waves = 1 ∧ stats.failedFiles = 1 ∧
      ∃ schedule, Scheduled settings Prod.snd schedule ∧
        ((blocks settings 2 world).map
          (fun b => b.tally settings Prod.snd schedule .unknown)).sum = 1 ∧
        ((blocks settings 2 world).map
          (fun b => b.tally settings Prod.snd schedule (.applied "a"))).sum = 1 := by
  intro files store settings world stats
  have happlier : settings.applier.RunsPipelines Prod.snd := runsPipelines_workspace
  obtain ⟨schedule, hschedule, hwaves, hfailed, hunknown, hfile, -⟩ :=
    stats_add_up settings Prod.snd happlier 2 world
  -- what the applier makes of the wave
  let lint : Mutation := .custom (.point 0) "lint" .empty
  let missing : FileError := .other "no such file"
  let told : Log := [.applyBegin files, .unknown lint, .applied "a" lint, .applyEnd files,
    .failed "b" missing]
  have hlint : Resolver.builtins.dispatch "one" lint
      = ⟨.ok "one", (Resolver.builtins.resolve "lint").2.1, [.unknown lint]⟩ := by
    rw [Resolver.dispatch, Resolver.dispatchWith]
    rfl
  have hmutate : mutateAll .builtins "a" "one" [lint] = ⟨.ok "one",
      (Resolver.builtins.resolve "lint").2.1, [.unknown lint, .applied "a" lint]⟩ := by
    rw [mutateAll, hlint]
    rfl
  obtain ⟨edited, after, hedited, hmissing⟩ : ∃ edited after, world.2.applyFile "a" [lint]
      = (.ok "one", edited, [.unknown lint, .applied "a" lint]) ∧
        edited.applyFile "b" [] = (.error missing, after, []) := by
    have hread : world.2.readContents "a" = (.ok "one", (world.2.readContents "a").2) := rfl
    have hsweep : Mutation.sweep [lint] = [lint] := rfl
    have hresolver : (world.2.readContents "a").2.resolver = .builtins := rfl
    rw [Workspace.applyFile, hread]
    simp only [Workspace.mutateContents, hsweep, hresolver, hmutate]
    exact ⟨_, _, rfl, rfl⟩
  have happly : settings.applier.apply ([], world.2) files
      = (.error (.files [("b", missing)]), ([], after), told) := by
    have hentries : files.entries = [("a", [lint]), ("b", [])] := rfl
    simp only [settings, Applier.second, Workspace.applier, Workspace.apply, hentries,
      Workspace.applyFiles, hedited, hmissing]
    rfl
  have hblocks : blocks settings 2 world = [.wave files ([], world.2), .dry] := by
    have hstep : step settings (.start world)
        = applyWave settings (State.provided (.start world) ([], world.2) ⟨some files⟩)
            ⟨some files⟩ files := rfl
    rw [blocks, blocksFrom, hstep, applyWave_proceed rfl happly]
    rfl
  have hhistory : history settings 2 world = [⟨files, .error (.files [("b", missing)])⟩] := by
    rw [history_blocks, hblocks]
    simp only [List.filterMap_cons, Block.applied?, happly, List.filterMap_nil]
  have hcount : ∀ c, Log.count c (start settings 2 world).state.log
      = Log.count c (.waveBegin ⟨some files⟩ :: told) := by
    intro c
    rw [count_start, hblocks, List.map_cons, List.map_singleton, count_dry, Block.events, happly]
    simp [Log.count_cons, told, Log.events, Entry.isNote, Entry.counter?, Nat.add_comm]
  have hunknowns : stats.unknown = 1 := (Stats.value_ofLog _ .unknown).trans (hcount .unknown)
  have happlied : stats.byFile.get? "a" = some 1 :=
    (Stats.get?_ofLog_iff _ "a" 1).2 ⟨(hcount (.applied "a")).symm, Nat.one_pos⟩
  refine ⟨happlier, hwaves.trans ?_, hfailed.trans ?_, schedule, hschedule,
    hunknown.symm.trans hunknowns, ((hfile "a" 1).1 happlied).1.symm⟩
  · rw [← files_history, hhistory]
    rfl
  · rw [hhistory]
    rfl

end Run

end EditWaves
