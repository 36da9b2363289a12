import EditWaves.Launch

/-!
# The configuration of a run

The command line is put over the configuration that was found, setting by setting, and only what
comes of it is checked.  A configuration can therefore be repaired by the command line or broken by
it, and one that is accepted is accepted by everything that reads it later on.

* `Config.Overlaid`: what each option does to the settings.
* `Config.validate_eq_ok_iff`, `Config.validate_eq_error_iff`: the check of a configuration says
  exactly whether it is usable, and otherwise what is wrong with it.
* `Launch.found_iff`: where the configuration comes from that the command line is put over.
* `loadConfig_overlaid`: which configuration a run has, and that it can be started.
-/

namespace EditWaves

/-! ## Settings and options -/

/-- A setting is replaced by the value of an option if that was given, and kept otherwise. -/
inductive Settles {α : Type} (before : α) : Option α → α → Prop where
  | replaced (value : α) : Settles before (some value) value
  | kept : Settles before none before

variable {α : Type}

theorem settles_getD (before : α) (given : Option α) :
    Settles before given (given.getD before) := by
  cases given with
  | none => exact .kept
  | some value => exact .replaced value

/-- An optional setting that an option can only give a value. -/
theorem settles_or (before given : Option α) :
    Settles before (given.map some) (given <|> before) := by
  cases given with
  | none => exact .kept
  | some value => exact .replaced (some value)

theorem Settles.unique {before first second : α} {given : Option α}
    (h₁ : Settles before given first) (h₂ : Settles before given second) : first = second := by
  cases h₁ with
  | replaced value => cases h₂; rfl
  | kept => cases h₂; rfl

namespace Options

/-- The policy for files that fail which the command line asks for. -/
def onFileError (o : Options) : Option FileErrorPolicy :=
  if o.abortOnError then some .abort else none

/-- The provider that the command line selects. -/
inductive Selects (o : Options) : Option ProviderType → Prop where
  | command (hcommand : o.command.isSome) : Selects o (some .command)
  | wavesFile (hwavesFile : o.wavesFile.isSome) : Selects o (some .wavesFile)
  | nothing (hcommand : o.command = none) (hwavesFile : o.wavesFile = none) : Selects o none

/-- The command line gives at most one provider. -/
def Exclusive (o : Options) : Prop := o.command = none ∨ o.wavesFile = none

end Options

namespace Config

/-- A configuration over which a command line has been put: every setting with an option has the
value of the option, and all others are what they were.  Of the settings of a command only its
words are replaced; where nothing has been said of it, the others have their defaults. -/
structure Overlaid (c : Config) (o : Options) (r : Config) : Prop where
  minimum : Settles c.waves.minimum o.minWaves r.waves.minimum
  maximum : Settles c.waves.maximum (o.maxWaves.map some) r.waves.maximum
  rootDir : Settles c.rootDir (o.rootDir.map some) r.rootDir
  onFileError : Settles c.onFileError o.onFileError r.onFileError
  selected : ∃ given, o.Selects given ∧ Settles c.provider.selected given r.provider.selected
  command_kept : o.command = none → r.provider.command = c.provider.command
  command_replaced : ∀ words, o.command = some words → ∃ settings,
    r.provider.command = some settings ∧ settings.command = words ∧
      Settles CommandSettings.defaultTimeoutMs (c.provider.command.map CommandSettings.timeoutMs)
        settings.timeoutMs ∧
      Settles none (c.provider.command.map CommandSettings.workingDir) settings.workingDir
  wavesFile : Settles c.provider.wavesFile (o.wavesFile.map some) r.provider.wavesFile

variable {c r : Config} {o : Options}

theorem selects_overlay (c : Config) (h : o.Exclusive) : ∃ given, o.Selects given ∧
    Settles c.provider.selected given (c.overlay o).provider.selected := by
  cases hcommand : o.command with
  | none =>
    cases hwavesFile : o.wavesFile with
    | none =>
      refine ⟨none, .nothing hcommand hwavesFile, ?_⟩
      simp [overlay, hcommand, hwavesFile, Settles.kept]
    | some path =>
      refine ⟨some .wavesFile, .wavesFile (by simp [hwavesFile]), ?_⟩
      simp [overlay, hwavesFile, Settles.replaced]
  | some words =>
    have hwavesFile : o.wavesFile = none := by
      rcases h with h | h
      · simp [hcommand] at h
      · exact h
    refine ⟨some .command, .command (by simp [hcommand]), ?_⟩
    simp [overlay, hcommand, hwavesFile, Settles.replaced]

/-- The command of a configuration over which another one is put. -/
theorem command_overlay {words : List String} (c : Config) (h : o.command = some words) :
    ∃ settings, (c.overlay o).provider.command = some settings ∧ settings.command = words ∧
      Settles CommandSettings.defaultTimeoutMs (c.provider.command.map CommandSettings.timeoutMs)
        settings.timeoutMs ∧
      Settles none (c.provider.command.map CommandSettings.workingDir) settings.workingDir := by
  refine ⟨{ c.provider.command.getD .default with command := words }, ?_, rfl, ?_⟩
  · simp [overlay, h]
  · cases c.provider.command with
    | none => exact ⟨.kept, .kept⟩
    | some settings => exact ⟨.replaced _, .replaced _⟩

/-- Putting a command line over a configuration does what its options say. -/
theorem overlaid_overlay (c : Config) (h : o.Exclusive) : c.Overlaid o (c.overlay o) where
  minimum := settles_getD _ _
  maximum := settles_or _ _
  rootDir := settles_or _ _
  onFileError := by
    unfold Options.onFileError overlay
    cases o.abortOnError with
    | false => exact .kept
    | true => exact .replaced _
  selected := selects_overlay c h
  command_kept hcommand := by simp [overlay, hcommand]
  command_replaced _ hcommand := command_overlay c hcommand
  wavesFile := settles_or _ _

theorem Selects.unique {first second : Option ProviderType} (h : o.Exclusive)
    (h₁ : o.Selects first) (h₂ : o.Selects second) : first = second := by
  rcases h with h | h <;> cases h₁ <;> cases h₂ <;> simp_all

/-- The settings of a command are determined by the options. -/
theorem Overlaid.command_unique {s : Config} (hr : c.Overlaid o r) (hs : c.Overlaid o s) :
    r.provider.command = s.provider.command := by
  cases hcommand : o.command with
  | none => rw [hr.command_kept hcommand, hs.command_kept hcommand]
  | some words =>
    obtain ⟨first, hfirst, hwords₁, htimeout₁, hdir₁⟩ := hr.command_replaced words hcommand
    obtain ⟨second, hsecond, hwords₂, htimeout₂, hdir₂⟩ := hs.command_replaced words hcommand
    have hsame : first = second := by
      cases first
      cases second
      simp only [CommandSettings.mk.injEq]
      exact ⟨hwords₁.trans hwords₂.symm, htimeout₁.unique htimeout₂, hdir₁.unique hdir₂⟩
    rw [hfirst, hsecond, hsame]

/-- No two configurations come of putting a command line over one. -/
theorem Overlaid.unique {s : Config} (h : o.Exclusive) (hr : c.Overlaid o r)
    (hs : c.Overlaid o s) : r = s := by
  have hcommand := hr.command_unique hs
  obtain ⟨first, hfirst, hselected₁⟩ := hr.selected
  obtain ⟨second, hsecond, hselected₂⟩ := hs.selected
  obtain rfl := Selects.unique h hfirst hsecond
  have hselected := hselected₁.unique hselected₂
  have hminimum := hr.minimum.unique hs.minimum
  have hmaximum := hr.maximum.unique hs.maximum
  have hrootDir := hr.rootDir.unique hs.rootDir
  have honFileError := hr.onFileError.unique hs.onFileError
  have hwavesFile := hr.wavesFile.unique hs.wavesFile
  rcases r with ⟨⟨_, _⟩, ⟨_, _, _⟩, _, _⟩
  rcases s with ⟨⟨_, _⟩, ⟨_, _, _⟩, _, _⟩
  simp_all

/-! ## Configurations that can be used -/

/-- The settings that the selected provider needs are there. -/
inductive Provided (c : Config) : Prop where
  | command (settings : CommandSettings) (hselected : c.provider.selected = .command)
      (hsettings : c.provider.command = some settings)
  | wavesFile (path : String) (hselected : c.provider.selected = .wavesFile)
      (hpath : c.provider.wavesFile = some path)

/-- A run can be started: the minimum of waves does not exceed the maximum, and the selected
provider has its settings. -/
structure Usable (c : Config) : Prop where
  bounds : ∀ maximum, c.waves.maximum = some maximum → c.waves.minimum ≤ maximum
  provided : c.Provided

/-- What is wrong with a configuration, the bounds before the provider. -/
inductive Faulty (c : Config) : ConfigError → Prop where
  | bounds {maximum : Nat} (hmaximum : c.waves.maximum = some maximum)
      (hlt : maximum < c.waves.minimum) : Faulty c (.invalidWaves c.waves.minimum maximum)
  | settings (hbounds : ∀ maximum, c.waves.maximum = some maximum → c.waves.minimum ≤ maximum)
      (hmissing : ¬ c.Provided) : Faulty c (.missingSettings c.provider.selected)

theorem hasSettings_iff : c.hasSettings = true ↔ c.Provided := by
  unfold hasSettings
  constructor
  · intro h
    cases hselected : c.provider.selected with
    | command =>
      obtain ⟨settings, hsettings⟩ := Option.isSome_iff_exists.1 (by simpa [hselected] using h)
      exact .command settings hselected hsettings
    | wavesFile =>
      obtain ⟨path, hpath⟩ := Option.isSome_iff_exists.1 (by simpa [hselected] using h)
      exact .wavesFile path hselected hpath
  · rintro (⟨settings, hselected, hsettings⟩ | ⟨path, hselected, hpath⟩)
    · simp [hselected, hsettings]
    · simp [hselected, hpath]

end Config

theorem WavesPolicy.check_eq_ok {p : WavesPolicy}
    (h : ∀ maximum, p.maximum = some maximum → p.minimum ≤ maximum) : p.check = .ok p := by
  unfold check
  cases hmaximum : p.maximum with
  | none => rfl
  | some maximum =>
    have hle := h maximum hmaximum
    simp [show ¬ maximum < p.minimum by omega]

theorem WavesPolicy.check_eq_error {p : WavesPolicy} {maximum : Nat}
    (hmaximum : p.maximum = some maximum) (hlt : maximum < p.minimum) :
    p.check = .error (.invalidWaves p.minimum maximum) := by
  simp [check, hmaximum, hlt]

namespace Config

variable {c : Config}

theorem validate_of_usable (h : c.Usable) : c.validate = .ok () := by
  simp [validate, WavesPolicy.check_eq_ok h.bounds, hasSettings_iff.2 h.provided]

theorem validate_of_faulty {e : ConfigError} (h : c.Faulty e) : c.validate = .error e := by
  cases h with
  | bounds hmaximum hlt => simp [validate, WavesPolicy.check_eq_error hmaximum hlt]
  | settings hbounds hmissing =>
    have hsettings : c.hasSettings = false :=
      Bool.eq_false_iff.2 (fun h => hmissing (hasSettings_iff.1 h))
    simp [validate, WavesPolicy.check_eq_ok hbounds, hsettings]

/-- A configuration is usable, or something is wrong with it. -/
theorem usable_or_faulty (c : Config) : c.Usable ∨ ∃ e, c.Faulty e := by
  by_cases hbounds : ∀ maximum, c.waves.maximum = some maximum → c.waves.minimum ≤ maximum
  · by_cases hprovided : c.Provided
    · exact .inl ⟨hbounds, hprovided⟩
    · exact .inr ⟨_, .settings hbounds hprovided⟩
  · simp only [Classical.not_forall, Nat.not_le] at hbounds
    obtain ⟨maximum, hmaximum, hlt⟩ := hbounds
    exact .inr ⟨_, .bounds hmaximum hlt⟩

/-- The check accepts exactly the configurations that can be used. -/
theorem validate_eq_ok_iff : c.validate = .ok () ↔ c.Usable := by
  constructor
  · intro h
    rcases c.usable_or_faulty with husable | ⟨e, hfaulty⟩
    · exact husable
    · simp [validate_of_faulty hfaulty] at h
  · exact validate_of_usable

/-- All others are refused for what is wrong with them. -/
theorem validate_eq_error_iff {e : ConfigError} : c.validate = .error e ↔ c.Faulty e := by
  constructor
  · intro h
    rcases c.usable_or_faulty with husable | ⟨e', hfaulty⟩
    · simp [validate_of_usable husable] at h
    · rw [validate_of_faulty hfaulty] at h
      obtain rfl := Except.error.inj h
      exact hfaulty
  · exact validate_of_faulty

end Config

/-! ## The configuration of a run -/

namespace Launch

variable {d : Disk} {o : Options} {c r : Config} {found : Except ConfigError Config}

/-- What is configured before the command line is put over it: what the file that is named holds,
what the default file holds if there is one, or else the defaults. -/
inductive Found (d : Disk) (o : Options) : Except ConfigError Config → Prop where
  | named (path : String) (hconfig : o.config = some path) : Found d o (Config.load d path)
  | defaultFile (hconfig : o.config = none) (hexists : d.exists? "automutate.toml" = true) :
      Found d o (Config.load d "automutate.toml")
  | defaults (hconfig : o.config = none) (hexists : d.exists? "automutate.toml" = false) :
      Found d o (.ok .default)

/-- There is always something that is found, and nothing besides. -/
theorem found_iff : Found d o found ↔ (baseConfig d o).1 = found := by
  constructor
  · rintro (⟨path, hconfig⟩ | ⟨hconfig, hexists⟩ | ⟨hconfig, hexists⟩)
    · simp only [baseConfig, hconfig]
    · simp only [baseConfig, hconfig, Launch.defaultFile, hexists, if_true]
    · simp [baseConfig, hconfig, Launch.defaultFile, hexists]
  · rintro rfl
    unfold baseConfig
    cases hconfig : o.config with
    | some path => exact .named path hconfig
    | none =>
      cases hexists : d.exists? Launch.defaultFile with
      | true => exact .defaultFile hconfig hexists
      | false => exact .defaults hconfig hexists

/-- Only the configuration with the command line over it is checked. -/
theorem loadConfig_of_found (h : Found d o (.ok c)) :
    loadConfig d o = match (c.overlay o).validate with
      | .ok () => .ok (c.overlay o)
      | .error e => .error e := by
  simp only [loadConfig, found_iff.1 h]
  rfl

theorem loadConfig_of_found_error {e : ConfigError} (h : Found d o (.error e)) :
    loadConfig d o = .error e := by
  simp only [loadConfig, found_iff.1 h]

theorem usable_of_loadConfig (h : loadConfig d o = .ok r) : r.Usable := by
  cases hbase : (baseConfig d o).1 with
  | error e =>
    rw [loadConfig_of_found_error (found_iff.2 hbase)] at h
    cases h
  | ok c =>
    rw [loadConfig_of_found (found_iff.2 hbase)] at h
    cases hvalid : (c.overlay o).validate with
    | error e => simp [hvalid] at h
    | ok _ =>
      obtain rfl : c.overlay o = r := by simpa [hvalid] using h
      exact Config.validate_eq_ok_iff.1 hvalid

end Launch

/-- What the source of a usable configuration is: the command, or what the file of waves holds. -/
inductive WaveSource.Selected (d : Disk) (c : Config) : Except Chain WaveSource → Prop where
  | command (settings : CommandSettings) (hselected : c.provider.selected = .command)
      (hsettings : c.provider.command = some settings) :
      Selected d c (.ok (.command settings))
  | wavesFile (path : String) (hselected : c.provider.selected = .wavesFile)
      (hpath : c.provider.wavesFile = some path) :
      Selected d c ((Source.loadWaves d path).map .queue)

theorem WaveSource.selected_ofConfig (d : Disk) {c : Config} (h : c.Provided) :
    Selected d c (ofConfig d c) := by
  unfold ofConfig
  cases h with
  | command settings hselected hsettings =>
    simp only [hselected, hsettings]
    exact .command settings hselected hsettings
  | wavesFile path hselected hpath =>
    simp only [hselected, hpath]
    exact .wavesFile path hselected hpath

/-- A run has the configuration that was found with the command line put over it, provided that
this can be used, whether or not what was found could be used.  A configuration that a run has can
be turned into bounds and into a source of waves, and no settings are missed then. -/
theorem loadConfig_overlaid (d : Disk) (o : Options) (hexclusive : o.Exclusive) :
    (∀ c, Launch.Found d o (.ok c) → ∃ r, c.Overlaid o r ∧
      (∀ s, c.Overlaid o s → s = r) ∧
      (Launch.loadConfig d o = .ok r ↔ r.Usable) ∧
      (∀ e, Launch.loadConfig d o = .error e ↔ r.Faulty e) ∧
      (r.Usable ∨ ∃ e, r.Faulty e)) ∧
    (∀ e, Launch.Found d o (.error e) → Launch.loadConfig d o = .error e) ∧
    ∀ r, Launch.loadConfig d o = .ok r →
      (∀ maximum, r.waves.maximum = some maximum → r.waves.minimum ≤ maximum) ∧
      r.waves.check = .ok r.waves ∧ WaveSource.Selected d r (WaveSource.ofConfig d r) := by
  refine ⟨?_, ?_, ?_⟩
  · intro c hfound
    have hload := Launch.loadConfig_of_found hfound
    refine ⟨c.overlay o, Config.overlaid_overlay c hexclusive, ?_, ?_, ?_, ?_⟩
    · intro s hs
      exact hs.unique hexclusive (Config.overlaid_overlay c hexclusive)
    · rw [hload, ← Config.validate_eq_ok_iff]
      cases (c.overlay o).validate <;> simp
    · intro e
      rw [hload, ← Config.validate_eq_error_iff]
      cases (c.overlay o).validate <;> simp
    · exact (c.overlay o).usable_or_faulty
  · exact fun e hfound => Launch.loadConfig_of_found_error hfound
  · intro r hload
    have husable := Launch.usable_of_loadConfig hload
    exact ⟨husable.bounds, WavesPolicy.check_eq_ok husable.bounds,
      WaveSource.selected_ofConfig d husable.provided⟩

/-- Nothing is configured, which is no usable configuration, and a command and bounds are given. -/
theorem loadConfig_overlaid_default :
    let d := Disk.empty ["work"]
    let o : Options :=
      { Options.empty with minWaves := some 2, maxWaves := some 4, command := some ["lint"] }
    let r : Config := ⟨⟨2, some 4⟩, ⟨.command, some ⟨["lint"], 30000, none⟩, none⟩, none, .proceed⟩
    o.Exclusive ∧ Config.default.Faulty (.missingSettings .command) ∧
      Config.default.Overlaid o r ∧ Launch.loadConfig d o = .ok r ∧
      r.waves.check = .ok r.waves ∧
      WaveSource.Selected d r (.ok (.command ⟨["lint"], 30000, none⟩)) := by
  intro d o r
  have hexclusive : o.Exclusive := .inr rfl
  obtain ⟨hfound, -, hready⟩ := loadConfig_overlaid d o hexclusive
  obtain ⟨s, hs, hunique, hok, -⟩ := hfound .default (.defaults rfl rfl)
  obtain rfl : r = s := hunique r (Config.overlaid_overlay .default hexclusive)
  have husable : r.Usable := by
    refine ⟨?_, .command ⟨["lint"], 30000, none⟩ rfl rfl⟩
    intro maximum hmaximum
    obtain rfl : 4 = maximum := Option.some.inj hmaximum
    decide
  have hload := hok.2 husable
  obtain ⟨-, hcheck, hsource⟩ := hready r hload
  have hmissing : ¬ Config.default.Provided := by
    rintro (⟨settings, -, hsettings⟩ | ⟨path, hselected, -⟩)
    · cases hsettings
    · cases hselected
  exact ⟨hexclusive, .settings (fun _ h => by cases h) hmissing, hs, hload, hcheck, hsource⟩

end EditWaves
