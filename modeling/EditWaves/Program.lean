import EditWaves.Disk.Files
import EditWaves.Launch

/-!
# The program

The program reads its arguments, loads the configuration, runs waves until there
are no more, and prints the names of the files that it changed.  It is a function
of the arguments and the disk.

The exit code is 0 if every file of every wave was mutated, 2 if the arguments
cannot be read, and 1 otherwise.
-/

namespace EditWaves

/-- The world of the program: the source of waves and the files. -/
structure World where
  source : WaveSource
  workspace : Workspace DiskFiles

namespace World

/-- The disk. -/
def disk (w : World) : Disk := w.workspace.files.disk

/-- The world with another disk. -/
def withDisk (w : World) (d : Disk) : World :=
  { w with workspace := { w.workspace with files := { w.workspace.files with disk := d } } }

/-- Asks the source for waves. -/
def provider : Provider World where
  provide w :=
    let (result, source, disk) := w.source.provide w.disk
    (result, { w.withDisk disk with source })

/-- Applies waves to the files. -/
def applier : Applier World where
  apply w files :=
    let (result, workspace, log) := w.workspace.apply files
    (result, { w with workspace }, log)

end World

namespace Program

/-- Why the program fails. -/
inductive Failure where
  /-- The arguments cannot be read. -/
  | usage (stop : Options.Stop)
  | failed (message : String)
deriving Repr, BEq, DecidableEq, Inhabited

/-- What the program leaves behind. -/
structure Outcome where
  exitCode : Nat
  /-- The standard output. -/
  output : String
  failure : Option Failure
  /-- The lines of the trace that are important enough to be shown. -/
  log : List TraceLine
  disk : Disk

/-- The name and version of the program. -/
def version : String := "automutate_cli 0.1.0\n"

/-- How the program is called. -/
def help : String :=
  "Applies waves of text mutations to files until the provider runs dry\n\n" ++
  "Usage: automutate [OPTIONS]\n\n" ++
  "Options:\n" ++
  "  -c, --config <CONFIG>          TOML configuration file. Defaults to ./automutate.toml " ++
    "when present\n" ++
  "      --command <COMMAND>...     Command printing a mutations wave as JSON. Takes the " ++
    "remaining arguments\n" ++
  "      --waves-file <WAVES_FILE>  JSON file holding an array of mutations waves\n" ++
  "      --min-waves <MIN_WAVES>    \n" ++
  "      --max-waves <MAX_WAVES>    \n" ++
  "      --root-dir <ROOT_DIR>      Directory that file names in waves are relative to\n" ++
  "      --abort-on-error           Stop after the first wave in which any file fails\n" ++
  "  -h, --help                     Print help\n" ++
  "  -V, --version                  Print version\n"

/-- The end of the program when the arguments give no options. -/
def stopped (d : Disk) (stop : Options.Stop) : Outcome :=
  match stop with
  | .displayHelp => ⟨0, help, none, [], d⟩
  | .displayVersion => ⟨0, version, none, [], d⟩
  | stop => ⟨2, "", some (.usage stop), [], d⟩

/-- Whether a line is shown. -/
def isShown (t : TraceLine) : Bool := t.level ≠ .debug

/-- Names of files, one in each line. -/
def namesText (names : List String) : String := String.join (names.map (· ++ "\n"))

/-- What is said about files that failed although the run went on. -/
def warnings (names : List String) : List TraceLine :=
  names.map (fun n => ⟨.warn, "Failed to mutate " ++ n, []⟩)

/-- What a run comes to: what is printed, what is said at the end, and why it failed. -/
def report : Except RunError Results → String × List TraceLine × Option String
  | .ok r =>
    let failure := if r.failed.isEmpty then none
      else some s!"Mutations failed for {r.failed.length} file(s)"
    (namesText r.mutated, warnings r.failed, failure)
  | .error (.aborted source r) => (namesText r.mutated, [], some source.message)
  | .error e => ("", [], some e.message)

/-- The settings of a run. -/
def runSettings (c : Config) : RunSettings World :=
  ⟨World.provider, World.applier, c.waves, c.onFileError⟩

/-- The world in which a run starts. -/
def startWorld (d : Disk) (c : Config) (source : WaveSource) : World :=
  ⟨source, .new ⟨d, c.rootDir⟩ .builtins⟩

/-- The end of the program before a run. -/
def refused (d : Disk) (log : List TraceLine) (message : String) : Outcome :=
  ⟨1, "", some (.failed message), log, d⟩

/-- The program with a configuration; `none` if the run takes more than `budget`
rounds. -/
def runConfig (budget : Nat) (d : Disk) (c : Config) (log : List TraceLine) : Option Outcome :=
  match WaveSource.ofConfig d c with
  | .error chain => some (refused d log ((chain.head?.map Cause.text).getD ""))
  | .ok source =>
    let ended := Run.start (runSettings c) budget (startWorld d c source)
    ended.outcome.map (fun outcome =>
      let (output, last, failure) := report outcome
      { exitCode := if failure.isNone then 0 else 1
        output
        failure := failure.map .failed
        log := log ++ ended.state.log.trace.filter isShown ++ last
        disk := ended.state.world.disk })

/-- The program; `none` if the run takes more than `budget` rounds. -/
def run (budget : Nat) (arguments : List String) (d : Disk) : Option Outcome :=
  match Options.parse arguments with
  | .error stop => some (stopped d stop)
  | .ok o =>
    let log := Launch.loadTrace d o
    match Launch.loadConfig d o with
    | .error e => some (refused d log e.message)
    | .ok c => runConfig budget d c log

end Program

end EditWaves
