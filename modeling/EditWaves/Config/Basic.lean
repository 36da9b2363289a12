import EditWaves.Config.Record
import EditWaves.Disk.Basic
import EditWaves.Run

/-!
# Configurations

What a configuration text can set, the values of what it does not set, and the
conditions that a configuration has to meet before a run: the minimum of waves must
not exceed the maximum, and the provider that was selected needs its settings.
-/

namespace EditWaves

/-- Which provider is selected. -/
inductive ProviderType where
  | command
  | wavesFile
deriving Repr, BEq, DecidableEq, Inhabited

/-- The name of a provider. -/
def ProviderType.name : ProviderType → String
  | command => "command"
  | wavesFile => "waves-file"

/-- The settings of a command that offers waves. -/
structure CommandSettings where
  /-- The program and its arguments. -/
  command : List String
  timeoutMs : Nat
  workingDir : Option String
deriving Repr, BEq, DecidableEq, Inhabited

/-- The time that a command has unless something else is said. -/
def CommandSettings.defaultTimeoutMs : Nat := 30000

/-- The settings of a command of which nothing has been said. -/
def CommandSettings.default : CommandSettings := ⟨[], defaultTimeoutMs, none⟩

/-- The settings of a provider: which one is selected, and what is known of each. -/
structure ProviderConfig where
  selected : ProviderType
  command : Option CommandSettings
  wavesFile : Option String
deriving Repr, BEq, DecidableEq, Inhabited

/-- A configuration. -/
structure Config where
  waves : WavesPolicy
  provider : ProviderConfig
  /-- The directory from which the names of files are seen. -/
  rootDir : Option String
  onFileError : FileErrorPolicy
deriving Repr, BEq, DecidableEq, Inhabited

/-- The configuration in which nothing has been set. -/
def Config.default : Config := ⟨⟨0, none⟩, ⟨.command, none, none⟩, none, .proceed⟩

/-- Why a configuration cannot be used. -/
inductive ConfigError where
  | read (path reason : String)
  | parse (path : String) (fault : ConfigFault)
  /-- The selected provider has no settings. -/
  | missingSettings (provider : ProviderType)
  | invalidWaves (minimum maximum : Nat)
deriving Repr, BEq, DecidableEq, Inhabited

/-- The wording of a failure. -/
def ConfigError.message : ConfigError → String
  | read path reason => "Failed to read config file at " ++ Text.quoted path ++ ": " ++ reason
  | parse path fault =>
    "Failed to parse TOML from config file " ++ Text.quoted path ++ ": TOML parse error: " ++
      fault.message
  | missingSettings provider =>
    "Provider type '" ++ provider.name ++ "' selected but its settings are missing"
  | invalidWaves minimum maximum => s!"Waves minimum {minimum} exceeds maximum {maximum}"

/-- The policy itself, if its minimum does not exceed its maximum. -/
def WavesPolicy.check (p : WavesPolicy) : Except ConfigError WavesPolicy :=
  match p.maximum with
  | some maximum => if maximum < p.minimum then .error (.invalidWaves p.minimum maximum) else .ok p
  | none => .ok p

namespace Config

/-- Whether the selected provider has its settings. -/
def hasSettings (c : Config) : Bool :=
  match c.provider.selected with
  | .command => c.provider.command.isSome
  | .wavesFile => c.provider.wavesFile.isSome

/-- Checks that a configuration can be used. -/
def validate (c : Config) : Except ConfigError Unit :=
  match c.waves.check with
  | .error e => .error e
  | .ok _ => if c.hasSettings then .ok () else .error (.missingSettings c.provider.selected)

/-! ## Reading -/

/-- The settings of waves. -/
def wavesRecord : Record WavesPolicy where
  name := "WavesSettings"
  start := Config.default.waves
  fields := [
    ⟨"minimum", fun t s => do return { s with minimum := ← number "usize" t }, false, false⟩,
    ⟨"maximum", fun t s => do return { s with maximum := some (← number "usize" t) }, false, true⟩]

/-- The settings of a command. -/
def commandRecord : Record CommandSettings where
  name := "CommandProviderSettings"
  start := .default
  fields := [
    ⟨"command", fun t s => do return { s with command := ← texts t }, true, true⟩,
    ⟨"timeout-ms", fun t s => do return { s with timeoutMs := ← number "u64" t }, false, false⟩,
    ⟨"working-dir", fun t s => do return { s with workingDir := some (← path t) }, false, true⟩]

/-- The settings of a file of waves. -/
def wavesFileRecord : Record String where
  name := "WavesFileSettings"
  start := ""
  fields := [⟨"path", fun t _ => path t, true, true⟩]

/-- The names of the providers. -/
def providerTypes : List (String × ProviderType) :=
  [ProviderType.command, .wavesFile].map (fun p => (p.name, p))

/-- The settings of the provider. -/
def providerRecord : Record ProviderConfig where
  name := "ProviderConfig"
  start := Config.default.provider
  fields := [
    ⟨"provider-type", fun t s => do return { s with selected := ← choice providerTypes t },
      false, false⟩,
    ⟨"command-settings", fun t s => do return { s with command := some (← commandRecord.read t) },
      false, false⟩,
    ⟨"waves-file-settings",
      fun t s => do return { s with wavesFile := some (← wavesFileRecord.read t) }, false, false⟩]

/-- The settings of files. -/
def filesRecord : Record (Option String) where
  name := "FilesConfig"
  start := none
  fields := [⟨"root-dir", fun t _ => do return some (← path t), false, true⟩]

/-- What to do when files fail. -/
def errorsRecord : Record FileErrorPolicy where
  name := "ErrorsConfig"
  start := .proceed
  fields := [⟨"on-file-error",
    fun t _ => choice [("abort", FileErrorPolicy.abort), ("continue", .proceed)] t, false, false⟩]

/-- A whole configuration. -/
def record : Record Config where
  name := "Config"
  start := .default
  fields := [
    ⟨"waves", fun t s => do return { s with waves := ← wavesRecord.read t }, false, false⟩,
    ⟨"provider", fun t s => do return { s with provider := ← providerRecord.read t },
      false, false⟩,
    ⟨"files", fun t s => do return { s with rootDir := ← filesRecord.read t }, false, false⟩,
    ⟨"errors", fun t s => do return { s with onFileError := ← errorsRecord.read t },
      false, false⟩]

/-- The configuration of a text. -/
def ofText (text : String) : Except ConfigFault Config :=
  match Toml.parse? text with
  | some t => record.read t
  | none => .error .malformed

/-- The configuration of a file. -/
def load (d : Disk) (path : String) : Except ConfigError Config :=
  match d.readText? path with
  | .error e => .error (.read path e.message)
  | .ok text => (ofText text).mapError (.parse path)

end Config

end EditWaves
