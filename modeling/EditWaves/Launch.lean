import EditWaves.Log
import EditWaves.Options
import EditWaves.Shell.Source
import EditWaves.Source

/-!
# From the command line to a source of waves

The configuration comes from the file that the command line names, from the file
`automutate.toml` if there is one, or from nothing; what the command line sets is
put over it, and only the result has to be valid.  The selected provider is then
turned into a source of waves.
-/

namespace EditWaves

namespace Launch

/-- The configuration file that is looked for. -/
def defaultFile : String := "automutate.toml"

/-- A line of the trace without fields. -/
def note (message : String) : TraceLine := ⟨.info, message, []⟩

/-- The configuration before the command line is put over it, and what is noted about
where it comes from. -/
def baseConfig (d : Disk) (o : Options) : Except ConfigError Config × TraceLine :=
  match o.config with
  | some path =>
    (Config.load d path, note ("Loading configuration from " ++ Text.quoted path))
  | none =>
    if d.exists? defaultFile then
      (Config.load d defaultFile,
        note ("Loading default configuration from " ++ Text.quoted defaultFile))
    else (.ok .default, note "No configuration file found, using built-in defaults")

/-- A configuration that can be used, or why it cannot. -/
def checked (c : Config) : Except ConfigError Config :=
  match c.validate with
  | .ok () => .ok c
  | .error e => .error e

/-- The configuration of a run. -/
def loadConfig (d : Disk) (o : Options) : Except ConfigError Config :=
  match (baseConfig d o).1 with
  | .ok base => checked (base.overlay o)
  | .error e => .error e

/-- What is noted while the configuration is loaded. -/
def loadTrace (d : Disk) (o : Options) : List TraceLine := [(baseConfig d o).2]

end Launch

/-- A source of waves that a configuration can select. -/
inductive WaveSource where
  | queue (waves : List Wave)
  | command (settings : CommandSettings)

namespace WaveSource

/-- The source that a configuration selects. -/
def ofConfig (d : Disk) (c : Config) : Except Chain WaveSource :=
  match c.provider.selected with
  | .command =>
    match c.provider.command with
    | some settings => .ok (.command settings)
    | none => .error (Chain.single "Command settings missing for command provider")
  | .wavesFile =>
    match c.provider.wavesFile with
    | some path => (Source.loadWaves d path).map .queue
    | none => .error (Chain.single "Waves file settings missing for waves-file provider")

/-- Asks a source for a wave. -/
def provide (s : WaveSource) (d : Disk) : Except Chain Wave × WaveSource × Disk :=
  match s with
  | queue waves =>
    let (result, waves) := Source.queue.provide waves
    (result, queue waves, d)
  | command settings =>
    let (result, d) := settings.provide d
    (result, command settings, d)

end WaveSource

end EditWaves
