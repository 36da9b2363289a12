import EditWaves.Proofs.Program.Report
import EditWaves.Proofs.Run.Abort
import EditWaves.Proofs.Run.Schedule

/-!
# How the program ends

Over a file of waves the program always comes to an end, whether it is to stop or to go on when
files fail.  Its exit code and what it prints are then decided by the turns of the waves that it
has applied.

* `exists_results_of_stopsAt`: a run that is offered waves ends with results under both policies.
* `offers_queue_source`: what the program is offered by a file of waves.
* `run_waves_file`: exit code and output.
-/

namespace EditWaves

namespace Run

variable {σ : Type} {settings : RunSettings σ} {world : σ} {budget : Nat}

/-- What is to be done when files fail does not matter for what a run is offered. -/
theorem offers_answering {waves : Nat → Wave} (hoffers : Offers settings world waves)
    (p : FileErrorPolicy) : Offers (settings.answering p) world waves := by
  have hworld : ∀ i, worldAt (settings.answering p) world i = worldAt settings world i := by
    intro i
    induction i with
    | zero => rfl
    | succ i ih => exact congrArg (afterRound settings) ih
  intro i
  rw [hworld]
  exact hoffers i

/-- A run ends with results if there is a round in which it may end. -/
theorem exists_results_of_stopsAt (happlier : settings.applier.FailsOnlyFiles)
    {waves : Nat → Wave} (hoffers : Offers settings world waves) {s : Nat}
    (hs : StopsAt settings.waves waves s) (hbudget : s < budget) :
    ∃ r, (start settings budget world).results? = some r := by
  have hfailsOnly : (settings.answering .proceed).applier.FailsOnlyFiles := happlier
  have hends : EndsAt (settings.answering .proceed) world waves budget s :=
    endsAt_of_stopsAt rfl hfailsOnly (offers_answering hoffers .proceed) hs hbudget
  obtain ⟨r, hproceed⟩ := hends.outcome
  have hsettings : settings = settings.answering settings.onFileError := rfl
  cases hpolicy : settings.onFileError with
  | proceed =>
    rw [hsettings, hpolicy]
    exact ⟨r, by simp [Ended.results?, hproceed]⟩
  | abort =>
    rw [hsettings, hpolicy]
    by_cases hfine : ∀ a ∈ history (settings.answering .proceed) budget world, ¬ a.FilesFailed
    · rw [start_answering_of_fine hfine]
      exact ⟨r, by simp [Ended.results?, hproceed]⟩
    · have hfailed : ∃ a ∈ history (settings.answering .proceed) budget world, a.FilesFailed := by
        simpa using hfine
      obtain ⟨k, hk, files, failures, hfirst⟩ := exists_firstFailure hfailed
      obtain ⟨results, haborts⟩ := abortsAfter_of_firstFailure hfirst hk
      exact ⟨results, by simp [Ended.results?, haborts.aborted]⟩

end Run

namespace Program

open Run

/-! ## Files of waves -/

theorem failsOnlyFiles_applier : World.applier.FailsOnlyFiles :=
  fun w files reason => failsOnlyFiles_workspace w.workspace files reason

variable {d : Disk} {c : Config} {ws : List Wave} {budget : Nat}

/-- Each round takes one wave from the file. -/
theorem source_worldAt (d : Disk) (c : Config) (ws : List Wave) (i : Nat) :
    (worldAt (runSettings c) (startWorld d c (.queue ws)) i).source = .queue (ws.drop i) := by
  induction i with
  | zero => rfl
  | succ i ih =>
    have hprovide := provide_drop ws i
    rcases hworld : worldAt (runSettings c) (startWorld d c (.queue ws)) i with ⟨source, w⟩
    rw [hworld] at ih
    obtain rfl : source = .queue (ws.drop i) := ih
    rw [worldAt, hworld, afterRound]
    simp only [runSettings, World.provider, WaveSource.provide, hprovide]
    rcases queued ws i with ⟨_ | files⟩ <;> rfl

/-- The program is offered the waves of the file, and then dry ones. -/
theorem offers_queue_source (d : Disk) (c : Config) (ws : List Wave) :
    Offers (runSettings c) (startWorld d c (.queue ws)) (queued ws) := by
  intro i
  have hsource := source_worldAt d c ws i
  show (WaveSource.provide _ _).1 = _
  rw [hsource, WaveSource.provide]
  simp only [provide_drop]

/-- Over a file of waves a run always ends with results. -/
theorem exists_results_queue (d : Disk) (c : Config)
    (hbudget : max ws.length c.waves.minimum < budget) :
    ∃ r, (start (runSettings c) budget (startWorld d c (.queue ws))).results? = some r := by
  obtain ⟨s, hle, hs⟩ := exists_stopsAt_queued c.waves ws
  exact exists_results_of_stopsAt failsOnlyFiles_applier (offers_queue_source d c ws) hs (by omega)

/-! ## Exit code and output -/

/-- If its configuration selects a file of waves that can be read, the program comes to an end.  It
has exit code 0 exactly if in all waves that it has applied the turns of all files succeeded, and
whether or not it has, it prints the names of the files with a turn that succeeded. -/
theorem run_waves_file {arguments : List String} {o : Options} {path : String}
    (hparse : Options.parse arguments = .ok o) (hload : Launch.loadConfig d o = .ok c)
    (hselected : c.provider.selected = .wavesFile) (hpath : c.provider.wavesFile = some path)
    (hwaves : Source.loadWaves d path = .ok ws)
    (hbudget : max ws.length c.waves.minimum < budget) :
    let settings := runSettings c
    let world := startWorld d c (.queue ws)
    let all := turns settings World.workspace budget world
    all.map (fun t => (t.name, t.mutations))
      = (applied settings budget world).flatMap Dict.entries ∧
    ∃ out, run budget arguments d = some out ∧
      (out.exitCode = 0 ↔ ∀ t ∈ all, t.Succeeds) ∧
      Lists out.output (fun name => ∃ t ∈ all, t.name = name ∧ t.Succeeds) := by
  intro settings world all
  refine ⟨entries_turns settings World.workspace budget world, ?_⟩
  have hsource : WaveSource.ofConfig d c = .ok (.queue ws) := by
    simp [WaveSource.ofConfig, hselected, hpath, hwaves, Except.map]
  obtain ⟨r, hr⟩ := exists_results_queue d c hbudget
  have hrun : ∃ out, runConfig budget d c (Launch.loadTrace d o) = some out := by
    cases hended : (start settings budget world).outcome with
    | none => simp [settings, world, Ended.results?, hended] at hr
    | some outcome => simp [runConfig, hsource, settings, world, hended]
  obtain ⟨out, hout⟩ := hrun
  refine ⟨out, by simpa [run, hparse, hload] using hout, ?_⟩
  rcases runConfig_eq_some hout with
    ⟨chain, hrefused, -⟩ | ⟨source, outcome, hfound, hended, houtput, hexit⟩
  · rw [hsource] at hrefused
    cases hrefused
  · obtain rfl : WaveSource.queue ws = source := Except.ok.inj (hsource.symm.trans hfound)
    rw [hexit, houtput]
    exact ⟨failure_report_iff World.answersAs_applier hended hr,
      lists_of_results World.answersAs_applier hended hr⟩

/-- One wave with two files, of which one does not exist. -/
theorem run_waves_file_two :
    let text := "[\x7b\"fileMutations\":\x7b\"a\":[],\"b\":[]\x7d\x7d]"
    let d := ((Disk.empty ["work"]).place "w" (.file (Text.Utf8.encode text))).place "a" (.file [])
    let o : Options := { Options.empty with wavesFile := some "w" }
    let c : Config := { Config.default with provider := ⟨.wavesFile, none, some "w"⟩ }
    let ws : List Wave := [⟨some (.ofList [("a", []), ("b", [])])⟩]
    let all := turns (runSettings c) World.workspace 2 (startWorld d c (.queue ws))
    Options.parse ["--waves-file", "w"] = .ok o ∧ Launch.loadConfig d o = .ok c ∧
      Source.loadWaves d "w" = .ok ws ∧ ∃ out, run 2 ["--waves-file", "w"] d = some out ∧
        (out.exitCode = 0 ↔ ∀ t ∈ all, t.Succeeds) ∧
        Lists out.output (fun name => ∃ t ∈ all, t.name = name ∧ t.Succeeds) := by
  intro text d o c ws all
  have hparse : Options.parse ["--waves-file", "w"] = .ok o := rfl
  have hload : Launch.loadConfig d o = .ok c := by
    simp only [text, d, o, c]
    rfl
  have hread : d.read? "w" = .ok (Text.Utf8.encode text) := by
    simp only [text, d]
    rfl
  have hencode : Text.Utf8.encode text = [91, 123, 34, 102, 105, 108, 101, 77, 117, 116, 97, 116,
      105, 111, 110, 115, 34, 58, 123, 34, 97, 34, 58, 91, 93, 44, 34, 98, 34, 58, 91, 93, 125,
      125, 93] := by
    decide +kernel
  have hdecode : Text.Utf8.decode? [91, 123, 34, 102, 105, 108, 101, 77, 117, 116, 97, 116,
      105, 111, 110, 115, 34, 58, 123, 34, 97, 34, 58, 91, 93, 44, 34, 98, 34, 58, 91, 93, 125,
      125, 93] = some text := by
    decide +kernel
  have hchars : text.toList = ['[', '\x7b', '"', 'f', 'i', 'l', 'e', 'M', 'u', 't', 'a', 't', 'i',
      'o', 'n', 's', '"', ':', '\x7b', '"', 'a', '"', ':', '[', ']', ',', '"', 'b', '"', ':', '[',
      ']', '\x7d', '\x7d', ']'] := by
    decide +kernel
  let document : Json.Document := .array [.object [(some "fileMutations",
    .object [(some "a", .array [] false), (some "b", .array [] false)] false)] false] false
  have hdocument : Json.Document.read text = (document, true) := by
    rw [Json.Document.read, hchars]
    cbv
  have hparsed : Source.parseWaves text = .ok ws := by
    rw [Source.parseWaves, readText, hdocument]
    rfl
  have hwaves : Source.loadWaves d "w" = .ok ws := by
    rw [Source.loadWaves, Disk.readText?, hread, hencode]
    simp only [hdecode, hparsed]
    rfl
  have hbudget : max ws.length c.waves.minimum < 2 := by decide
  obtain ⟨-, hends⟩ := run_waves_file hparse hload rfl rfl hwaves hbudget
  exact ⟨hparse, hload, hwaves, hends⟩

end Program

end EditWaves
