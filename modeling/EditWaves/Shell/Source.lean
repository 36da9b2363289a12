import EditWaves.Config.Basic
import EditWaves.Mutation.Document
import EditWaves.Shell.Eval

/-!
# Waves from a command

A command is started once for every wave and prints the wave as JSON.  A command
that prints nothing has nothing more to offer; one that fails, takes too long or
prints anything else is a failure of the source.
-/

namespace EditWaves

/-- A time in the unit that suits it. -/
def durationText (ms : Nat) : String :=
  if ms = 0 then "0ns"
  else if ms < 1000 then s!"{ms}ms"
  else
    let fraction := (toString (1000 + ms % 1000)).toList.drop 1
    let fraction := (fraction.reverse.dropWhile (· = '0')).reverse
    let tail := if fraction = [] then "" else "." ++ String.ofList fraction
    toString (ms / 1000) ++ tail ++ "s"

namespace CommandSettings

/-- A command in messages. -/
def shown (s : CommandSettings) : String := "Command '" ++ Text.quotedList s.command ++ "'"

/-- The wave that a command printed. -/
def waveOf (output : List UInt8) : Except Chain Wave :=
  match Text.Utf8.decode? output, Text.Utf8.fault? output with
  | none, fault =>
    .error (.message "Command output is not UTF-8" ::
      fault.toList.map (fun f => .message f.message))
  | some text, _ =>
    if text.toList.all Text.isBlank then .ok .dry
    else
      (readText Wave.ofDocument text).mapError (fun fault =>
        [.message "Command output is not a valid mutations wave", .json fault])

/-- The wave of a process that has ended. -/
def waveOfEnded (s : CommandSettings) (e : Shell.Ended) : Except Chain Wave :=
  let failed (how : String) : Except Chain Wave :=
    let complaint := Text.trimBlank (Text.Utf8.decodeLossy e.errors)
    .error (Chain.single (s.shown ++ " " ++ how ++ ": " ++ complaint))
  match e.ending with
  | .exited 0 => waveOf e.output
  | .exited code => failed s!"exited with code {code}"
  | .signalled signal => failed s!"terminated by signal {signal}"
  | .timedOut =>
    .error (Chain.single (s.shown ++ " timed out after " ++ durationText s.timeoutMs))

/-- Asks a command for a wave. -/
def provide (s : CommandSettings) (d : Disk) : Except Chain Wave × Disk :=
  match s.command with
  | [] => (.error (Chain.single "Command provider has no command configured"), d)
  | name :: arguments =>
    match Shell.spawn d s.workingDir name arguments s.timeoutMs with
    | .error e =>
      (.error (Chain.single
        ("Failed to spawn command '" ++ Text.quotedList s.command ++ "': " ++ e.message)), d)
    | .ok ended => (s.waveOfEnded ended, ended.disk)

end CommandSettings

end EditWaves
