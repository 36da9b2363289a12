import Mathlib.Data.List.Basic
import Mathlib.Data.Nat.Find
import EditWaves.Proofs.Run.Calls
import EditWaves.Source

/-!
# The schedule of a run

Which waves a run asks for and applies depends only on whether the waves it is offered
have files and on the bounds: it ends in the first round that is the maximum, or that is
dry and not below the minimum.

* `go_rounds`: until then each round asks once and applies what has files.
* `start_stopsAt`, `start_of_not_stops`: there the run ends well, and nowhere else.
* `calls_stopsAt`: the calls of the whole run.
* `start_forever`: a run that is offered one wave for ever.
* `run_schedule`: the counts, and that a queue always comes to an end.
-/

namespace EditWaves

/-- An applier that reports nothing worse than files that failed. -/
def Applier.FailsOnlyFiles {σ : Type} (a : Applier σ) : Prop :=
  ∀ s files reason, (a.apply s files).1 ≠ .error (.other reason)

theorem Applier.FailsOnlyFiles.recorded {σ : Type} {a : Applier σ} (ha : a.FailsOnlyFiles) :
    a.recorded.FailsOnlyFiles :=
  fun s files reason => ha s.1 files reason

/-- The calls that a wave causes: it is asked for, and applied if it has files. -/
def Wave.calls (w : Wave) : List Call := .provide :: (w.files.map Call.apply).toList

namespace Run

variable {σ : Type}

/-! ## Rounds -/

/-- The world after a wave has been asked for and applied. -/
def afterRound (settings : RunSettings σ) (world : σ) : σ :=
  match settings.provider.provide world with
  | (.ok ⟨some files⟩, world) => (settings.applier.apply world files).2.1
  | (_, world) => world

/-- The world before the round with a number. -/
def worldAt (settings : RunSettings σ) (world : σ) : Nat → σ
  | 0 => world
  | i + 1 => afterRound settings (worldAt settings world i)

/-- The provider answers with `waves`, one in each round. -/
def Offers (settings : RunSettings σ) (world : σ) (waves : Nat → Wave) : Prop :=
  ∀ i, (settings.provider.provide (worldAt settings world i)).1 = .ok (waves i)

/-- Whether a run ends in the round with a number if it gets there. -/
def Stops (policy : WavesPolicy) (waves : Nat → Wave) (i : Nat) : Prop :=
  policy.maximum = some i ∨ ((waves i).files = none ∧ policy.minimum ≤ i)

/-- The first round in which a run ends. -/
structure StopsAt (policy : WavesPolicy) (waves : Nat → Wave) (s : Nat) : Prop where
  stops : Stops policy waves s
  first : ∀ i < s, ¬ Stops policy waves i

variable {settings : RunSettings σ} {world : σ} {waves : Nat → Wave}

/-- Whatever comes of a round, it leaves the world after the calls that it has made. -/
theorem world_step (s : State σ) : (step settings s).state.world
    = if settings.waves.allows s.wave then afterRound settings s.world else s.world := by
  cases hallows : settings.waves.allows s.wave with
  | false =>
    rw [step_capped hallows]
    rfl
  | true =>
    rw [if_pos rfl, afterRound]
    rcases hprovide : settings.provider.provide s.world with ⟨chain | ⟨_ | files⟩, world⟩
    · rw [step_failed hallows hprovide]
      rfl
    · rw [step_dry hallows hprovide rfl, world_dryWave]
      rfl
    · rw [step_files hallows hprovide rfl, world_applyWave]
      rfl

/-- A run may ask for a wave as long as it has not come to the maximum. -/
theorem allows_of_forall_ne {policy : WavesPolicy} {i : Nat}
    (h : ∀ j ≤ i, policy.maximum ≠ some j) : policy.allows i = true := by
  rw [WavesPolicy.allows]
  cases hmax : policy.maximum with
  | none => rfl
  | some maximum =>
    show decide (i < maximum) = true
    refine decide_eq_true (Nat.lt_of_not_le ?_)
    intro hle
    exact h maximum hle hmax

/-- A wave with files does not end the run, whatever becomes of the files. -/
theorem applyWave_next (hproceed : settings.onFileError = .proceed)
    (happlier : settings.applier.FailsOnlyFiles) (s : State σ) (w : Wave) (files : FileMutations) :
    ∃ t, applyWave settings s w files = .next t ∧ t.wave = s.wave + 1 ∧
      t.world = (settings.applier.apply s.world files).2.1 := by
  have hother := happlier s.world files
  rcases happly : settings.applier.apply s.world files with ⟨outcome, world, log⟩
  rw [happly] at hother
  rcases outcome with (failures | reason) | _
  · rw [applyWave_proceed hproceed happly]
    exact ⟨_, rfl, rfl, rfl⟩
  · exact absurd rfl (hother reason)
  · rw [applyWave_ok happly]
    exact ⟨_, rfl, rfl, rfl⟩

/-- A dry wave below the minimum does not end the run. -/
theorem dryWave_next {s : State σ} (hmin : s.wave < settings.waves.minimum) :
    ∃ t, dryWave settings s = .next t ∧ t.wave = s.wave + 1 ∧ t.world = s.world := by
  rw [dryWave, if_pos hmin]
  exact ⟨_, rfl, rfl, rfl⟩

/-- A dry wave at the minimum ends the run. -/
theorem dryWave_finish (s : State σ) (hmin : settings.waves.minimum ≤ s.wave) :
    dryWave settings s = finish s := by
  rw [dryWave, if_neg (by omega)]

/-- A round in which the run does not end. -/
theorem step_round (hproceed : settings.onFileError = .proceed)
    (happlier : settings.applier.FailsOnlyFiles) {s : State σ} {w : Wave}
    (hallows : settings.waves.allows s.wave = true)
    (hprovide : (settings.provider.provide s.world).1 = .ok w)
    (hdry : w.files = none → s.wave < settings.waves.minimum) :
    ∃ t, step settings s = .next t ∧ t.wave = s.wave + 1 ∧
      t.world = afterRound settings s.world := by
  have hanswer : settings.provider.provide s.world
      = (.ok w, (settings.provider.provide s.world).2) := Prod.ext hprovide rfl
  rw [afterRound, hanswer]
  rcases w with ⟨_ | files⟩
  · rw [step_dry hallows hanswer rfl]
    exact dryWave_next (hdry rfl)
  · rw [step_files hallows hanswer rfl]
    exact applyWave_next hproceed happlier (s.provided _ ⟨some files⟩) ⟨some files⟩ files

/-- The rounds before the first in which a run ends. -/
theorem go_rounds (hproceed : settings.onFileError = .proceed)
    (happlier : settings.applier.FailsOnlyFiles) (hoffers : Offers settings world waves) {n : Nat}
    (hn : ∀ i < n, ¬ Stops settings.waves waves i) :
    ∃ t, (∀ budget, go settings (budget + n) (.start world) = go settings budget t) ∧
      t.wave = n ∧ t.world = worldAt settings world n := by
  induction n with
  | zero => exact ⟨.start world, fun _ => rfl, rfl, rfl⟩
  | succ n ih =>
    obtain ⟨s, hgo, hwave, hworld⟩ := ih (fun i hi => hn i (by omega))
    have hallows : settings.waves.allows s.wave = true := by
      refine allows_of_forall_ne ?_
      intro j hj hmax
      exact hn j (by omega) (.inl hmax)
    have hdry : (waves n).files = none → s.wave < settings.waves.minimum := by
      intro hnone
      by_contra hmin
      exact hn n (by omega) (.inr ⟨hnone, by omega⟩)
    have hprovide : (settings.provider.provide s.world).1 = .ok (waves n) := by
      rw [hworld]
      exact hoffers n
    obtain ⟨t, hstep, htwave, htworld⟩ := step_round hproceed happlier hallows hprovide hdry
    refine ⟨t, ?_, ?_, ?_⟩
    -- The round takes the one that is left of the budget after the first `n`.
    · intro budget
      rw [show budget + (n + 1) = (budget + 1) + n by omega, hgo, go, hstep]
    · rw [htwave, hwave]
    · rw [htworld, hworld]
      rfl

/-! ## The end -/

/-- The world at the end of a run that ends in round `s`: at the maximum nothing is asked
for, and otherwise the provider has been asked. -/
def worldAfter (settings : RunSettings σ) (world : σ) (s : Nat) : σ :=
  if settings.waves.maximum = some s then worldAt settings world s
  else (settings.provider.provide (worldAt settings world s)).2

/-- The round in which a run ends. -/
theorem step_stops {s : State σ} {w : Wave}
    (hprovide : (settings.provider.provide s.world).1 = .ok w)
    (hallows : ∀ j < s.wave, settings.waves.maximum ≠ some j)
    (hstops : settings.waves.maximum = some s.wave ∨
      (w.files = none ∧ settings.waves.minimum ≤ s.wave)) :
    ∃ results t, step settings s = .stop (.ok results) t ∧
      t.world = if settings.waves.maximum = some s.wave then s.world
        else (settings.provider.provide s.world).2 := by
  by_cases hmax : settings.waves.maximum = some s.wave
  · have hcapped : settings.waves.allows s.wave = false := by
      rw [WavesPolicy.allows, hmax]
      exact decide_eq_false (Nat.lt_irrefl _)
    rw [step_capped hcapped, if_pos hmax]
    exact ⟨_, _, rfl, rfl⟩
  · obtain ⟨hnone, hmin⟩ := hstops.resolve_left hmax
    have hallowed : settings.waves.allows s.wave = true := by
      refine allows_of_forall_ne ?_
      intro j hj
      by_cases hwave : j = s.wave
      · rw [hwave]
        exact hmax
      · exact hallows j (by omega)
    have hanswer : settings.provider.provide s.world
        = (.ok w, (settings.provider.provide s.world).2) := Prod.ext hprovide rfl
    rw [step_dry hallowed hanswer hnone, dryWave_finish (s.provided _ w) hmin, if_neg hmax]
    exact ⟨_, _, rfl, rfl⟩

/-- A run ends well in the first round in which it can. -/
theorem start_stopsAt (hproceed : settings.onFileError = .proceed)
    (happlier : settings.applier.FailsOnlyFiles) (hoffers : Offers settings world waves) {s : Nat}
    (hs : StopsAt settings.waves waves s) {budget : Nat} (hbudget : s < budget) :
    ∃ results t, start settings budget world = ⟨some (.ok results), t⟩ ∧
      t.world = worldAfter settings world s := by
  obtain ⟨u, hgo, hwave, hworld⟩ := go_rounds hproceed happlier hoffers hs.first
  have hprovide : (settings.provider.provide u.world).1 = .ok (waves s) := by
    rw [hworld]
    exact hoffers s
  obtain ⟨results, t, hstep, ht⟩ := step_stops hprovide
    (fun j hj hmax => hs.first j (by omega) (.inl hmax)) (by rw [hwave]; exact hs.stops)
  refine ⟨results, t, ?_, ?_⟩
  · rw [start, show budget = (budget - s - 1) + 1 + s by omega, hgo, go, hstep]
  · rw [ht, hwave, hworld, worldAfter]

/-- A run does not end if there is no round in which it can. -/
theorem start_of_not_stops (hproceed : settings.onFileError = .proceed)
    (happlier : settings.applier.FailsOnlyFiles) (hoffers : Offers settings world waves)
    (hstops : ∀ i, ¬ Stops settings.waves waves i) (budget : Nat) :
    (start settings budget world).outcome = none := by
  obtain ⟨t, hgo, -, -⟩ := go_rounds hproceed happlier hoffers (n := budget) (fun i _ => hstops i)
  have hstart := hgo 0
  rw [Nat.zero_add] at hstart
  rw [start, hstart]
  rfl

/-! ## The calls -/

/-- The calls of the rounds before a given one. -/
theorem worldAt_recorded (hoffers : Offers settings world waves) (i : Nat) :
    worldAt settings.recorded (world, []) i
      = (worldAt settings world i, (List.range i).flatMap (fun j => (waves j).calls)) := by
  induction i with
  | zero => rfl
  | succ i ih =>
    rw [worldAt, ih, worldAt, List.range_succ, List.flatMap_append, List.flatMap_singleton]
    generalize (List.range i).flatMap (fun j => (waves j).calls) = past
    have hanswer : settings.provider.provide (worldAt settings world i)
        = (.ok (waves i), (settings.provider.provide (worldAt settings world i)).2) :=
      Prod.ext (hoffers i) rfl
    have hrecorded : settings.recorded.provider.provide (worldAt settings world i, past)
        = (.ok (waves i), (settings.provider.provide (worldAt settings world i)).2,
            past ++ [.provide]) :=
      Prod.ext (hoffers i) rfl
    rw [afterRound, afterRound, hanswer, hrecorded]
    rcases hw : waves i with ⟨_ | files⟩
    · rfl
    · simp only [RunSettings.recorded, Applier.recorded, Wave.calls, List.append_assoc]
      rfl

/-- All calls of a run. -/
theorem calls_stopsAt (hproceed : settings.onFileError = .proceed)
    (happlier : settings.applier.FailsOnlyFiles) (hoffers : Offers settings world waves) {s : Nat}
    (hs : StopsAt settings.waves waves s) {budget : Nat} (hbudget : s < budget) :
    calls settings budget world = (List.range s).flatMap (fun i => (waves i).calls) ++
      if settings.waves.maximum = some s then [] else [.provide] := by
  have hrecorded : Offers settings.recorded (world, []) waves := by
    intro i
    rw [worldAt_recorded hoffers]
    exact hoffers i
  have hends : ∃ results t, start settings.recorded budget (world, []) = ⟨some (.ok results), t⟩ ∧
      t.world = worldAfter settings.recorded (world, []) s :=
    start_stopsAt (show settings.recorded.onFileError = .proceed from hproceed) happlier.recorded
      hrecorded hs hbudget
  obtain ⟨results, t, hstart, ht⟩ := hends
  rw [calls, hstart, ht, worldAfter, worldAt_recorded hoffers]
  show Prod.snd (if settings.waves.maximum = some s then _ else _) = _
  split
  · rw [List.append_nil]
  · rfl

/-- Each wave is asked for once. -/
theorem countP_calls (w : Wave) : w.calls.countP (fun c => c.files?.isNone) = 1 := by
  rcases w with ⟨_ | files⟩ <;> rfl

/-- A wave is applied if it has files. -/
theorem filterMap_calls (w : Wave) : w.calls.filterMap Call.files? = w.files.toList := by
  rcases w with ⟨_ | files⟩ <;> rfl

theorem countP_rounds (waves : Nat → Wave) (n : Nat) :
    ((List.range n).flatMap (fun i => (waves i).calls)).countP (fun c => c.files?.isNone) = n := by
  induction n with
  | zero => rfl
  | succ n ih =>
    rw [List.range_succ, List.flatMap_append, List.countP_append, ih, List.flatMap_singleton,
      countP_calls]

theorem filterMap_rounds (waves : Nat → Wave) (n : Nat) :
    ((List.range n).flatMap (fun i => (waves i).calls)).filterMap Call.files?
      = (List.range n).filterMap (fun i => (waves i).files) := by
  rw [List.filterMap_flatMap, List.filterMap_eq_flatMap_toList]
  simp only [filterMap_calls]

/-- What a run does that ends in round `s`. -/
structure EndsAt (settings : RunSettings σ) (world : σ) (waves : Nat → Wave) (budget s : Nat) :
    Prop where
  outcome : ∃ results, (start settings budget world).outcome = some (.ok results)
  provides : provideCount settings budget world
    = if settings.waves.maximum = some s then s else s + 1
  applies : applied settings budget world = (List.range s).filterMap (fun i => (waves i).files)

theorem endsAt_of_stopsAt (hproceed : settings.onFileError = .proceed)
    (happlier : settings.applier.FailsOnlyFiles) (hoffers : Offers settings world waves) {s : Nat}
    (hs : StopsAt settings.waves waves s) {budget : Nat} (hbudget : s < budget) :
    EndsAt settings world waves budget s := by
  have hcalls := calls_stopsAt hproceed happlier hoffers hs hbudget
  refine ⟨?_, ?_, ?_⟩
  · obtain ⟨results, t, hstart, -⟩ := start_stopsAt hproceed happlier hoffers hs hbudget
    exact ⟨results, by rw [hstart]⟩
  · rw [provideCount, hcalls, List.countP_append, countP_rounds]
    split <;> rfl
  · rw [applied, hcalls, List.filterMap_append, filterMap_rounds]
    split <;> exact List.append_nil _

/-- A workspace reports nothing worse than files that failed. -/
theorem failsOnlyFiles_workspace {φ : Type} [FileAccess φ] :
    (Workspace.applier : Applier (Workspace φ)).FailsOnlyFiles := by
  intro w files reason
  show (Workspace.apply w files).1 ≠ _
  unfold Workspace.apply
  rcases w.applyFiles files.entries with ⟨failures, after, log⟩
  show (if failures.isEmpty then (Except.ok (), after, _) else _ : Except ApplyError Unit × _).1 ≠ _
  split <;> intro h <;> cases h

/-! ## Queues -/

/-- The waves of a queue, which is dry when it has run out. -/
def queued (ws : List Wave) (i : Nat) : Wave := ws[i]?.getD .dry

variable {α : Type}

/-- A run that takes its waves from a queue and goes on when files fail. -/
def queueSettings (a : Applier α) (policy : WavesPolicy) : RunSettings (List Wave × α) :=
  ⟨Source.queue.first, a.second, policy, .proceed⟩

theorem provide_drop (ws : List Wave) (i : Nat) :
    Source.queue.provide (ws.drop i) = (.ok (queued ws i), ws.drop (i + 1)) := by
  by_cases hi : i < ws.length
  · rw [List.drop_eq_getElem_cons hi, queued, List.getElem?_eq_getElem hi]
    rfl
  · rw [List.drop_eq_nil_of_le (by omega), List.drop_eq_nil_of_le (by omega), queued,
      List.getElem?_eq_none (by omega)]
    rfl

/-- Each round takes one wave from the queue. -/
theorem queue_worldAt (a : Applier α) (policy : WavesPolicy) (ws : List Wave) (x : α) (i : Nat) :
    (worldAt (queueSettings a policy) (ws, x) i).1 = ws.drop i := by
  induction i with
  | zero => rfl
  | succ i ih =>
    have hprovide := provide_drop ws i
    rcases hworld : worldAt (queueSettings a policy) (ws, x) i with ⟨left, y⟩
    rw [hworld] at ih
    obtain rfl : left = ws.drop i := ih
    rw [worldAt, hworld, afterRound]
    simp only [queueSettings, Provider.first, hprovide]
    rcases queued ws i with ⟨_ | files⟩ <;> rfl

theorem offers_queue (a : Applier α) (policy : WavesPolicy) (ws : List Wave) (x : α) :
    Offers (queueSettings a policy) (ws, x) (queued ws) := by
  intro i
  have hprovide := provide_drop ws i
  rw [← queue_worldAt a policy ws x i] at hprovide
  exact congrArg Prod.fst hprovide

/-- A run that has come past the queue and the minimum has ended. -/
theorem exists_stopsAt_queued (policy : WavesPolicy) (ws : List Wave) :
    ∃ s ≤ max ws.length policy.minimum, StopsAt policy (queued ws) s := by
  classical
  have hdry : queued ws (max ws.length policy.minimum) = .dry := by
    rw [queued, List.getElem?_eq_none (Nat.le_max_left _ _)]
    rfl
  have hstops : Stops policy (queued ws) (max ws.length policy.minimum) :=
    .inr ⟨by rw [hdry]; rfl, Nat.le_max_right _ _⟩
  have hex : ∃ i, Stops policy (queued ws) i := ⟨_, hstops⟩
  exact ⟨Nat.find hex, Nat.find_min' hex hstops, Nat.find_spec hex,
    fun i hi => Nat.find_min hex hi⟩

/-! ## One wave for ever -/

/-- A run that is always offered the same files. -/
def foreverSettings {π : Type} (files : FileMutations) (a : Applier α) (policy : WavesPolicy) :
    RunSettings (π × α) :=
  ⟨(Source.forever ⟨some files⟩).first, a.second, policy, .proceed⟩

/-- Without a maximum it does not end. -/
theorem start_forever {π : Type} (files : FileMutations) {a : Applier α} (ha : a.FailsOnlyFiles)
    (minimum budget : Nat) (world : π × α) :
    (start (foreverSettings files a ⟨minimum, none⟩) budget world).outcome = none := by
  have hoffers : Offers (foreverSettings files a ⟨minimum, none⟩) world (fun _ => ⟨some files⟩) :=
    fun _ => rfl
  have happlier : (a.second : Applier (π × α)).FailsOnlyFiles :=
    fun w files reason => ha w.2 files reason
  refine start_of_not_stops rfl happlier hoffers ?_ budget
  rintro i (hmax | ⟨hnone, -⟩)
  · cases hmax
  · cases hnone

/-! ## The schedule -/

/-- If files that fail do not end a run and its applier never fails otherwise, then it ends
in the first round that is the maximum, or that is dry and not below the minimum: it asks for
one wave in each round before that, and in a dry one too, and applies in order the waves with
files of the rounds before.  A run over a queue has such a round, at the latest the one after
the queue or the minimum, whichever is later. -/
theorem run_schedule :
    (∀ {σ : Type} (settings : RunSettings σ) (world : σ) (waves : Nat → Wave),
      settings.onFileError = .proceed → settings.applier.FailsOnlyFiles →
      Offers settings world waves → ∀ s, StopsAt settings.waves waves s →
      ∀ budget, s < budget → EndsAt settings world waves budget s) ∧
    (∀ {α : Type} (a : Applier α) (policy : WavesPolicy) (ws : List Wave) (x : α),
      a.FailsOnlyFiles → ∃ s ≤ max ws.length policy.minimum, StopsAt policy (queued ws) s ∧
        ∀ budget, s < budget →
          EndsAt (queueSettings a policy) (ws, x) (queued ws) budget s ∧
          provideCount (queueSettings a policy) budget (ws, x)
            ≤ max ws.length policy.minimum + 1) := by
  refine ⟨?_, ?_⟩
  · intro σ settings world waves hproceed happlier hoffers s hs budget hbudget
    exact endsAt_of_stopsAt hproceed happlier hoffers hs hbudget
  · intro α a policy ws x ha
    obtain ⟨s, hle, hs⟩ := exists_stopsAt_queued policy ws
    refine ⟨s, hle, hs, ?_⟩
    intro budget hbudget
    have happlier : (queueSettings a policy).applier.FailsOnlyFiles :=
      fun w files reason => ha w.2 files reason
    have hends : EndsAt (queueSettings a policy) (ws, x) (queued ws) budget s :=
      endsAt_of_stopsAt rfl happlier (offers_queue a policy ws x) hs hbudget
    refine ⟨hends, ?_⟩
    rw [hends.provides]
    split <;> omega

/-- An empty mapping, a dry wave below the minimum and a file that does not exist. -/
theorem run_schedule_three_waves :
    let files : FileMutations := .ofList [("a.txt", [])]
    let ws : List Wave := [⟨some .empty⟩, .dry, ⟨some files⟩]
    let settings := queueSettings Workspace.applier ⟨2, none⟩
    let world := (ws, Workspace.new (⟨.empty⟩ : Store) .builtins)
    settings.applier.FailsOnlyFiles ∧ Offers settings world (queued ws) ∧
      StopsAt settings.waves (queued ws) 3 ∧
      (start settings 4 world).outcome = some (.ok ⟨[], ["a.txt"]⟩) ∧
      provideCount settings 4 world = 4 ∧ applied settings 4 world = [.empty, files] ∧
      ∃ s ≤ 3, StopsAt settings.waves (queued ws) s := by
  intro files ws settings world
  have happlier : settings.applier.FailsOnlyFiles :=
    fun s files reason => failsOnlyFiles_workspace s.2 files reason
  have hoffers : Offers settings world (queued ws) := offers_queue _ _ ws _
  have hs : StopsAt settings.waves (queued ws) 3 := by
    refine ⟨.inr ⟨rfl, by decide⟩, ?_⟩
    rintro i hi (hmax | ⟨hnone, hmin⟩)
    · cases hmax
    · have hmin : 2 ≤ i := hmin
      obtain rfl : i = 2 := by omega
      cases hnone
  have hends := run_schedule.1 settings world (queued ws) rfl happlier hoffers 3 hs 4 (by decide)
  obtain ⟨s, hle, hfirst, -⟩ := run_schedule.2 Workspace.applier ⟨2, none⟩ ws
    (Workspace.new (⟨.empty⟩ : Store) .builtins) failsOnlyFiles_workspace
  exact ⟨happlier, hoffers, hs, rfl, hends.provides, hends.applies, s, hle, hfirst⟩

end Run

end EditWaves
