import EditWaves.Log

/-!
# Runs

A run asks a provider for waves and has an applier apply them, one after the
other.  It ends when the provider has nothing more to offer and the minimum of
waves has been reached, or at the maximum.  Provider and applier are state
machines over one world, since what applying a wave does to the files may decide
what a command offers next; where they have nothing in common the world is a pair.

A run over a provider that never runs dry need not end, so `Run.go` takes a budget
of waves and tells when it is used up.
-/

namespace EditWaves

/-- How many waves a run may take. -/
structure WavesPolicy where
  /-- Waves that are asked for even when the provider has nothing to offer. -/
  minimum : Nat
  /-- The most waves that are asked for. -/
  maximum : Option Nat
deriving Repr, BEq, DecidableEq, Inhabited

/-- Whether the wave with a number may be asked for. -/
def WavesPolicy.allows (p : WavesPolicy) (wave : Nat) : Bool :=
  match p.maximum with
  | some maximum => wave < maximum
  | none => true

/-- What to do when files of a wave fail. -/
inductive FileErrorPolicy where
  /-- Stop after that wave. -/
  | abort
  /-- Remember the files and go on. -/
  | proceed
deriving Repr, BEq, DecidableEq, Inhabited

/-- A source of waves in a world `σ`. -/
structure Provider (σ : Type) where
  provide : σ → Except Chain Wave × σ

/-- A provider that knows only the first part of the world. -/
def Provider.first {π α : Type} (p : Provider π) : Provider (π × α) where
  provide s :=
    let (result, own) := p.provide s.1
    (result, own, s.2)

/-- What applies the mutations of a wave in a world `σ`. -/
structure Applier (σ : Type) where
  apply : σ → FileMutations → Except ApplyError Unit × σ × Log

/-- An applier that knows only the second part of the world. -/
def Applier.second {π α : Type} (a : Applier α) : Applier (π × α) where
  apply s files :=
    let (result, own, log) := a.apply s.2 files
    (result, (s.1, own), log)

/-- Everything that determines a run besides the world it starts in. -/
structure RunSettings (σ : Type) where
  provider : Provider σ
  applier : Applier σ
  waves : WavesPolicy
  onFileError : FileErrorPolicy

namespace Run

/-- Where a run stands. -/
structure State (σ : Type) where
  world : σ
  /-- The number of the next wave. -/
  wave : Nat
  /-- The files that have been mutated. -/
  mutated : Dict Unit
  /-- The files that have failed. -/
  failed : Dict Unit
  log : Log

/-- The start of a run. -/
def State.start {σ : Type} (world : σ) : State σ := ⟨world, 0, .empty, .empty, [.runBegin]⟩

/-- Adds names to a set of names. -/
def addNames (set : Dict Unit) (names : List String) : Dict Unit :=
  names.foldl (fun s n => s.insert n ()) set

/-- What a run has done so far. -/
def State.results {σ : Type} (s : State σ) : Results := ⟨s.mutated.keys, s.failed.keys⟩

/-- How a step ends: the run goes on, or it has an outcome. -/
inductive Step (σ : Type) where
  | next (s : State σ)
  | stop (outcome : Except RunError Results) (s : State σ)

variable {σ : Type}

/-- The end of a run that was not stopped early. -/
def finish (s : State σ) : Step σ :=
  .stop (.ok s.results) { s with log := s.log ++ [.runEnd s.results] }

/-- Records which files of a wave were mutated and which failed. -/
def record (s : State σ) (files : FileMutations) (failedNames : List String) : State σ :=
  { s with
    mutated := addNames s.mutated (files.keys.filter (fun n => !failedNames.contains n))
    failed := addNames s.failed failedNames }

/-- Applies a wave that has been provided. -/
def applyWave (settings : RunSettings σ) (s : State σ) (w : Wave) (files : FileMutations) :
    Step σ :=
  let (outcome, world, log) := settings.applier.apply s.world files
  let s := { s with world, log := s.log ++ .waveBegin w :: log ++ [.waveEnd w] }
  match outcome with
  | .ok () => .next { record s files [] with wave := s.wave + 1 }
  | .error (.other reason) => .stop (.error (.apply (.other reason))) s
  | .error (.files failures) =>
    let error := ApplyError.files failures
    let s := record s files error.fileNames
    match settings.onFileError with
    | .abort => .stop (.error (.aborted error s.results)) s
    | .proceed => .next { s with wave := s.wave + 1, log := s.log ++ [.continuing error] }

/-- What follows when the provider has nothing to offer. -/
def dryWave (settings : RunSettings σ) (s : State σ) : Step σ :=
  if s.wave < settings.waves.minimum then
    .next { s with
      wave := s.wave + 1
      log := s.log ++ [.belowMinimum s.wave settings.waves.minimum] }
  else finish s

/-- One round of a run: a wave is asked for and applied. -/
def step (settings : RunSettings σ) (s : State σ) : Step σ :=
  if settings.waves.allows s.wave then
    let (provided, world) := settings.provider.provide s.world
    let s := { s with world, log := s.log ++ [.provideBegin] }
    match provided with
    | .error chain => .stop (.error (.provider chain)) s
    | .ok w =>
      let s := { s with log := s.log ++ [.provideEnd w] }
      match w.files with
      | none => dryWave settings s
      | some files => applyWave settings s w files
  else finish s

/-- The outcome of a run and the state at its end; no outcome if the budget was used
up before. -/
structure Ended (σ : Type) where
  outcome : Option (Except RunError Results)
  state : State σ

/-- Runs for at most `budget` rounds. -/
def go (settings : RunSettings σ) : Nat → State σ → Ended σ
  | 0, s => ⟨none, s⟩
  | budget + 1, s =>
    match step settings s with
    | .next s => go settings budget s
    | .stop outcome s => ⟨some outcome, s⟩

/-- A run from the start. -/
def start (settings : RunSettings σ) (budget : Nat) (world : σ) : Ended σ :=
  go settings budget (.start world)

end Run

end EditWaves
