import EditWaves.Program
import EditWaves.Proofs.Run.Blocks
import EditWaves.Proofs.Run.Schedule
import EditWaves.Proofs.Workspace.Turns

/-!
# What the program prints

The program prints the names of the files that were changed, and it learns them from the results
of its run.  Here they are tied to the turns of all pipelines of all waves that the run applies.

* `mem_mutated_iff`, `mem_failed_iff`: the results of a run, turn by turn.
* `Lists`: a text that has the names with some property, one in each line.
* `failure_report_iff`: when the program says that it failed.
* `lists_changed_files_iff`: a run that has results has all changed files printed, and one that its
  provider ends has none (`changed_file_not_listed`).
-/

namespace EditWaves

variable {σ φ : Type} [FileAccess φ]

/-- An applier that answers as the workspace in its world does. -/
def Applier.AnswersAs (a : Applier σ) (workspace : σ → Workspace φ) : Prop :=
  ∀ s files, (a.apply s files).1 = ((workspace s).apply files).1

theorem answersAs_workspace {π : Type} :
    (Workspace.applier.second : Applier (π × Workspace φ)).AnswersAs Prod.snd :=
  fun _ _ => rfl

theorem World.answersAs_applier : World.applier.AnswersAs World.workspace :=
  fun _ _ => rfl

/-! ## The turns of a wave that has been applied -/

namespace AppliedWave

variable {w : Workspace φ} {files : FileMutations} {name : String}

theorem failedNames_apply (w : Workspace φ) (files : FileMutations) :
    (AppliedWave.mk files (w.apply files).1).failedNames
      = (w.applyFiles files.entries).1.map Prod.fst := by
  simp only [failedNames, Workspace.result_apply]
  cases (w.applyFiles files.entries).1 <;> rfl

theorem mem_failedNames_iff :
    name ∈ (AppliedWave.mk files (w.apply files).1).failedNames ↔
      ∃ t ∈ w.turns files.entries, t.name = name ∧ ¬ t.Succeeds := by
  rw [failedNames_apply, Workspace.mem_failures_iff]

/-- A file has one turn, so it is mutated if that succeeds. -/
theorem mutated_iff :
    (AppliedWave.mk files (w.apply files).1).Mutated name ↔
      ∃ t ∈ w.turns files.entries, t.name = name ∧ t.Succeeds := by
  have hnames : (w.turns files.entries).map Turn.name = files.keys := w.names_turns files.entries
  have hnodup : ((w.turns files.entries).map Turn.name).Nodup := by
    rw [hnames]
    exact files.nodup_keys
  rw [Mutated, mem_failedNames_iff, ← hnames, List.mem_map]
  constructor
  · rintro ⟨⟨t, ht, hname⟩, hfine⟩
    refine ⟨t, ht, hname, ?_⟩
    by_contra hfails
    exact hfine ⟨t, ht, hname, hfails⟩
  · rintro ⟨t, ht, hname, hsucceeds⟩
    refine ⟨⟨t, ht, hname⟩, ?_⟩
    rintro ⟨u, hu, huname, hfails⟩
    obtain rfl : u = t := List.inj_on_of_nodup_map hnodup hu ht (huname.trans hname.symm)
    exact hfails hsucceeds

end AppliedWave

/-! ## The turns of a run -/

/-- The turns of the wave that is applied in a block. -/
def Block.turns (workspace : σ → Workspace φ) : Block σ → List (Turn φ)
  | dry => []
  | wave files world => (workspace world).turns files.entries

namespace Run

/-- The turns of all waves that a run applies. -/
def turns (settings : RunSettings σ) (workspace : σ → Workspace φ) (budget : Nat) (world : σ) :
    List (Turn φ) :=
  (blocks settings budget world).flatMap (Block.turns workspace)

variable {settings : RunSettings σ} {workspace : σ → Workspace φ} {budget : Nat} {world : σ}
  {r : Results} {outcome : Except RunError Results} {name : String}

/-- They are those of the files that the applier is given, in order. -/
theorem entries_turns (settings : RunSettings σ) (workspace : σ → Workspace φ) (budget : Nat)
    (world : σ) :
    (turns settings workspace budget world).map (fun t => (t.name, t.mutations))
      = (applied settings budget world).flatMap Dict.entries := by
  have hblock : ∀ b : Block σ, (b.turns workspace).map (fun t => (t.name, t.mutations))
      = ((b.applied? settings).map (fun a => Dict.entries a.files)).toList.flatten := by
    rintro (_ | ⟨files, before⟩)
    · rfl
    · simp [Block.turns, Block.applied?, Workspace.entries_turns]
  rw [← files_history, history_blocks, turns, List.map_flatMap, List.map_filterMap]
  induction blocks settings budget world with
  | nil => rfl
  | cons b rest ih =>
    rw [List.flatMap_cons, hblock, ih]
    cases b <;> simp [Block.applied?]

/-- What can be said of an applied wave by one of its turns can be said of a run by one of its
turns. -/
theorem exists_history_iff (hanswers : settings.applier.AnswersAs workspace)
    {P : AppliedWave → Prop} {Q : Turn φ → Prop}
    (hwave : ∀ (w : Workspace φ) files,
      P ⟨files, (w.apply files).1⟩ ↔ ∃ t ∈ w.turns files.entries, Q t) :
    (∃ a ∈ history settings budget world, P a) ↔
      ∃ t ∈ turns settings workspace budget world, Q t := by
  have hblock : ∀ b : Block σ, (∃ a ∈ b.applied? settings, P a) ↔ ∃ t ∈ b.turns workspace, Q t := by
    rintro (_ | ⟨files, before⟩)
    · simp [Block.applied?, Block.turns]
    · simp [Block.applied?, Block.turns, hanswers before files, hwave]
  rw [history_blocks, turns]
  constructor
  · rintro ⟨a, ha, hP⟩
    obtain ⟨b, hb, hab⟩ := List.mem_filterMap.1 ha
    obtain ⟨t, ht, hQ⟩ := (hblock b).1 ⟨a, hab, hP⟩
    exact ⟨t, List.mem_flatMap.2 ⟨b, hb, ht⟩, hQ⟩
  · rintro ⟨t, ht, hQ⟩
    obtain ⟨b, hb, htb⟩ := List.mem_flatMap.1 ht
    obtain ⟨a, hab, hP⟩ := (hblock b).2 ⟨t, htb, hQ⟩
    exact ⟨a, List.mem_filterMap.2 ⟨b, hb, hab⟩, hP⟩

/-- A file is among the mutated ones if one of its turns succeeded. -/
theorem mem_mutated_iff (hanswers : settings.applier.AnswersAs workspace)
    (hr : (start settings budget world).results? = some r) :
    name ∈ r.mutated ↔
      ∃ t ∈ turns settings workspace budget world, t.name = name ∧ t.Succeeds := by
  rw [(summarizes_history hr).mem_mutated]
  exact exists_history_iff hanswers (fun _ _ => AppliedWave.mutated_iff)

/-- It is among the failed ones if one of its turns failed. -/
theorem mem_failed_iff (hanswers : settings.applier.AnswersAs workspace)
    (hr : (start settings budget world).results? = some r) :
    name ∈ r.failed ↔
      ∃ t ∈ turns settings workspace budget world, t.name = name ∧ ¬ t.Succeeds := by
  rw [(summarizes_history hr).mem_failed]
  exact exists_history_iff hanswers (fun _ _ => AppliedWave.mem_failedNames_iff)

/-- Some wave did not succeed as a whole if some turn failed. -/
theorem exists_ne_ok_iff (hanswers : settings.applier.AnswersAs workspace) :
    (∃ a ∈ history settings budget world, a.outcome ≠ .ok ()) ↔
      ∃ t ∈ turns settings workspace budget world, ¬ t.Succeeds := by
  refine exists_history_iff hanswers ?_
  intro w files
  show (w.apply files).1 ≠ .ok () ↔ _
  rw [ne_eq, Workspace.apply_eq_ok_iff]
  simp

/-- An applier that answers as a workspace does not end a run except by files that failed. -/
theorem ne_apply_of_answersAs (hanswers : settings.applier.AnswersAs workspace)
    (hended : (start settings budget world).outcome = some outcome) (source : ApplyError) :
    outcome ≠ .error (.apply source) := by
  rintro rfl
  have hstops := stopsBy_blocks settings budget world
  rw [hended] at hstops
  obtain ⟨past, files, before, reason, -, rfl, hother⟩ := hstops
  rw [hanswers before files, Workspace.result_apply] at hother
  split at hother <;> cases hother

end Run

/-! ## The report -/

namespace Program

/-- A text that has the names with some property, each once and in ascending order, and each in a
line of its own. -/
def Lists (output : String) (P : String → Prop) : Prop :=
  ∃ names : List String, output = namesText names ∧ names.Pairwise (· < ·) ∧
    ∀ name, name ∈ names ↔ P name

theorem namesText_cons (name : String) (names : List String) :
    namesText (name :: names) = name ++ "\n" ++ namesText names := by
  simp [namesText]

/-- Each name takes up a line. -/
theorem namesText_eq_empty_iff {names : List String} : namesText names = "" ↔ names = [] := by
  cases names with
  | nil => simp [namesText]
  | cons name names => simp [namesText_cons]

/-- If nothing is printed, no name has the property. -/
theorem lists_empty_iff {P : String → Prop} : Lists "" P ↔ ∀ name, ¬ P name := by
  constructor
  · rintro ⟨names, hnames, -, hiff⟩ name hP
    have hname := (hiff name).2 hP
    simp [namesText_eq_empty_iff.1 hnames.symm] at hname
  · intro hnone
    exact ⟨[], rfl, .nil, fun name => by simp [hnone name]⟩

open Run

variable {settings : RunSettings σ} {workspace : σ → Workspace φ} {budget : Nat} {world : σ}
  {r : Results} {outcome : Except RunError Results}

/-- The files that were mutated are printed in any run that has results. -/
theorem output_report (hended : (start settings budget world).outcome = some outcome)
    (hr : (start settings budget world).results? = some r) :
    (report outcome).1 = namesText r.mutated := by
  unfold Ended.results? at hr
  rw [hended] at hr
  rcases outcome with (_ | _ | _) | r' <;> cases hr <;> rfl

/-- The program fails exactly if some turn did. -/
theorem failure_report_iff (hanswers : settings.applier.AnswersAs workspace)
    (hended : (start settings budget world).outcome = some outcome)
    (hr : (start settings budget world).results? = some r) :
    (report outcome).2.2 = none ↔ ∀ t ∈ turns settings workspace budget world, t.Succeeds := by
  rcases houtcome : outcome with (chain | ⟨source, r'⟩ | source) | r'
  · simp [Ended.results?, hended, houtcome] at hr
  · -- the wave that stops the run did not succeed
    rw [houtcome] at hended
    obtain ⟨past, files, hhistory⟩ := history_of_aborted hended
    have hfailed : ∃ a ∈ history settings budget world, a.outcome ≠ .ok () := by
      rw [hhistory]
      exact ⟨_, List.mem_append_right past List.mem_cons_self, by simp⟩
    obtain ⟨t, ht, hfails⟩ := (exists_ne_ok_iff hanswers).1 hfailed
    constructor
    · intro h
      cases h
    · intro hall
      exact absurd (hall t ht) hfails
  · simp [Ended.results?, hended, houtcome] at hr
  · have hsame : r' = r := by simpa [Ended.results?, hended, houtcome] using hr
    have hnone : (report (.ok r')).2.2 = none ↔ r.failed = [] := by
      rw [hsame]
      cases hfailed : r.failed <;> simp [report, hfailed]
    rw [hnone, List.eq_nil_iff_forall_not_mem]
    constructor
    · intro hempty t ht
      by_contra hfails
      exact hempty t.name ((mem_failed_iff hanswers hr).2 ⟨t, ht, rfl, hfails⟩)
    · intro hall name hname
      obtain ⟨t, ht, -, hfails⟩ := (mem_failed_iff hanswers hr).1 hname
      exact hfails (hall t ht)

/-- What is printed of a run that has results. -/
theorem lists_of_results (hanswers : settings.applier.AnswersAs workspace)
    (hended : (start settings budget world).outcome = some outcome)
    (hr : (start settings budget world).results? = some r) :
    Lists (report outcome).1
      (fun name => ∃ t ∈ turns settings workspace budget world, t.name = name ∧ t.Succeeds) :=
  ⟨r.mutated, output_report hended hr, (summarizes_history hr).mutated_ascending,
    fun _ => mem_mutated_iff hanswers hr⟩

/-- A run has results unless its provider failed. -/
theorem exists_results (hanswers : settings.applier.AnswersAs workspace)
    (hended : (start settings budget world).outcome = some outcome)
    (hprovided : ∀ chain, outcome ≠ .error (.provider chain)) :
    ∃ r, (start settings budget world).results? = some r := by
  rcases houtcome : outcome with (chain | ⟨source, r⟩ | source) | r
  · exact absurd houtcome (hprovided chain)
  · exact ⟨r, by simp [Ended.results?, hended, houtcome]⟩
  · exact absurd houtcome (ne_apply_of_answersAs hanswers hended source)
  · exact ⟨r, by simp [Ended.results?, hended, houtcome]⟩

/-- The program with a configuration runs the source that this selects, or is refused it. -/
theorem runConfig_eq_some {d : Disk} {c : Config} {log : List TraceLine} {out : Outcome}
    (hrun : runConfig budget d c log = some out) :
    (∃ chain, WaveSource.ofConfig d c = .error chain ∧ out.output = "" ∧ out.exitCode = 1) ∨
    ∃ source outcome, WaveSource.ofConfig d c = .ok source ∧
      (start (runSettings c) budget (startWorld d c source)).outcome = some outcome ∧
      out.output = (report outcome).1 ∧ (out.exitCode = 0 ↔ (report outcome).2.2 = none) := by
  unfold runConfig at hrun
  cases hsource : WaveSource.ofConfig d c with
  | error chain =>
    simp only [hsource, Option.some.injEq] at hrun
    subst hrun
    exact .inl ⟨chain, rfl, rfl, rfl⟩
  | ok source =>
    simp only [hsource, Option.map_eq_some_iff] at hrun
    obtain ⟨outcome, hended, rfl⟩ := hrun
    refine .inr ⟨source, outcome, rfl, hended, rfl, ?_⟩
    cases (report outcome).2.2 <;> simp

/-- Whatever provides the waves of a run and however it ends, the names are printed of exactly the
files with a turn that succeeded in some wave, also if files that failed have stopped it; but not if
it was stopped by its provider after such a turn, since nothing is printed then. -/
theorem lists_changed_files_iff (settings : RunSettings σ) (workspace : σ → Workspace φ)
    (hanswers : settings.applier.AnswersAs workspace) (budget : Nat) (world : σ)
    (outcome : Except RunError Results)
    (hended : (start settings budget world).outcome = some outcome) :
    Lists (report outcome).1
        (fun name => ∃ t ∈ turns settings workspace budget world, t.name = name ∧ t.Succeeds) ↔
      (∀ chain, outcome ≠ .error (.provider chain)) ∨
        ∀ t ∈ turns settings workspace budget world, ¬ t.Succeeds := by
  by_cases hprovided : ∀ chain, outcome ≠ .error (.provider chain)
  · obtain ⟨r, hr⟩ := exists_results hanswers hended hprovided
    simp [hprovided, lists_of_results hanswers hended hr]
  · simp only [hprovided, false_or]
    simp only [Classical.not_forall, not_not] at hprovided
    obtain ⟨chain, rfl⟩ := hprovided
    show Lists "" _ ↔ _
    rw [lists_empty_iff]
    constructor
    · intro hnone t ht hsucceeds
      exact hnone t.name ⟨t, ht, rfl, hsucceeds⟩
    · rintro hfails name ⟨t, ht, -, hsucceeds⟩
      exact hfails t ht hsucceeds

/-- Of the first wave a file fails, which stops the run. -/
theorem lists_changed_files_aborted :
    let wave : FileMutations := .ofList [("a.txt", []), ("b.txt", [])]
    let files : Store := ⟨.ofList [("a.txt", .new "one" [] []), ("b.txt", .new "two" [0] [])]⟩
    let settings : RunSettings (Unit × Workspace Store) :=
      ⟨(Source.forever ⟨some wave⟩).first, Workspace.applier.second, ⟨0, none⟩, .abort⟩
    let world := ((), Workspace.new files .builtins)
    let outcome := .error (.aborted (.files [("b.txt", .other "read rejected")])
      ⟨["a.txt"], ["b.txt"]⟩)
    settings.applier.AnswersAs Prod.snd ∧ (start settings 1 world).outcome = some outcome ∧
      Lists "a.txt\n"
        (fun name => ∃ t ∈ turns settings Prod.snd 1 world, t.name = name ∧ t.Succeeds) := by
  intro wave files settings world outcome
  have hanswers : settings.applier.AnswersAs Prod.snd := answersAs_workspace
  have hended : (start settings 1 world).outcome = some outcome := rfl
  have hprovided : ∀ chain, outcome ≠ .error (.provider chain) := by simp [outcome]
  exact ⟨hanswers, hended,
    (lists_changed_files_iff settings Prod.snd hanswers 1 world _ hended).2 (.inl hprovided)⟩

/-- The provider fails after a wave that has changed a file, and no line has the name of that. -/
theorem changed_file_not_listed :
    let wave : FileMutations := .ofList [("a.txt", [.insert (.point 0) "x"])]
    let files : Store := ⟨.ofList [("a.txt", .new "one" [] [])]⟩
    let provider : Provider (Nat × Unit) := Source.failingAt (some 1) (Source.forever ⟨some wave⟩)
    let settings : RunSettings ((Nat × Unit) × Workspace Store) :=
      ⟨provider.first, Workspace.applier.second, ⟨0, none⟩, .proceed⟩
    let world := ((0, ()), Workspace.new files .builtins)
    ∃ outcome, (start settings 2 world).outcome = some outcome ∧
      ∃ t ∈ turns settings Prod.snd 2 world, t.Succeeds ∧
        ∀ names, (report outcome).1 = namesText names → t.name ∉ names := by
  intro wave files provider settings world
  have hinsert : (Resolver.builtins.lookup.dispatch "one" (.insert (.point 0) "x")).result
      = .ok "xone" := by
    rw [Lookup.dispatch_leaf (show Resolver.builtins.lookup _ = some .insert from rfl) rfl rfl]
    rfl
  let t : Turn Store := ⟨world.2, "a.txt", [.insert (.point 0) "x"]⟩
  have hsucceeds : t.Succeeds :=
    ⟨"one", (FileAccess.read files "a.txt").2, "xone", rfl,
      Lookup.applyEach_cons_ok hinsert [], rfl⟩
  have hturn : t ∈ turns settings Prod.snd 2 world :=
    List.mem_flatMap.2 ⟨.wave wave ((1, ()), world.2), List.mem_append_left _ (List.mem_singleton_self _),
      List.mem_singleton_self _⟩
  let chain : Chain := [.message s!"call {1}", .message "linter crashed"]
  have hended : (start settings 2 world).outcome = some (.error (.provider chain)) := by
    have happlier : settings.applier.FailsOnlyFiles :=
      fun w files reason => failsOnlyFiles_workspace w.2 files reason
    obtain ⟨u, hnext, -, hu⟩ : ∃ u, step settings (.start world) = .next u ∧ u.wave = 1 ∧
        u.world = afterRound settings world := step_round rfl happlier rfl rfl nofun
    have hprovide : settings.provider.provide u.world = (.error chain, (2, ()), u.world.2) := by
      rw [hu]
      rfl
    rw [start, go, hnext]
    show (go settings 1 u).outcome = _
    rw [go, step_failed rfl hprovide]
  refine ⟨_, hended, t, hturn, hsucceeds, ?_⟩
  intro names hnames
  rw [namesText_eq_empty_iff.1 hnames.symm]
  exact List.not_mem_nil

end Program

end EditWaves
