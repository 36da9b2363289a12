import EditWaves.Proofs.Run.Schedule
import EditWaves.Proofs.Workspace.StoredFiles

/-!
# The files of a run

What a whole run does to files in memory: the waves that it applies, one after the other,
and nothing else.  A wave treats each file that it names as a whole, whatever fails and
wherever.

* `world_eq_after`: a run leaves the workspace that its applied waves leave.
* `get?_after`: each file goes its own way through the waves.
* `run_files`: in every wave a file is all or nothing.
-/

namespace EditWaves

/-- A provider that may look at what the applier works on but leaves it alone. -/
def Provider.observing {π α : Type} (ask : π → α → Except Chain Wave × π) : Provider (π × α) where
  provide s :=
    let (result, own) := ask s.1 s.2
    (result, own, s.2)

/-! ## Waves in a row -/

namespace Workspace

/-- A workspace after the files of waves have been applied. -/
def after {φ : Type} [FileAccess φ] (w : Workspace φ) (waves : List FileMutations) :
    Workspace φ :=
  waves.foldl (fun w files => (w.apply files).2.1) w

theorem after_concat {φ : Type} [FileAccess φ] (w : Workspace φ) (waves : List FileMutations)
    (files : FileMutations) : w.after (waves ++ [files]) = ((w.after waves).apply files).2.1 := by
  rw [after, List.foldl_append]
  rfl

variable (w : Workspace Store)

theorem lookup_after (waves : List FileMutations) :
    (w.after waves).resolver.lookup = w.resolver.lookup := by
  induction waves generalizing w with
  | nil => rfl
  | cons files rest ih => exact (ih _).trans (lookup_apply w files)

/-- Each file goes through the waves by itself. -/
theorem get?_after (waves : List FileMutations) (name : String) :
    (w.after waves).files.files.get? name
      = (w.files.files.get? name).map
          (fun f => waves.foldl (StoredFile.afterWave w.resolver.lookup name) f) := by
  induction waves generalizing w with
  | nil => exact Option.map_id'.symm
  | cons files rest ih =>
    show ((w.apply files).2.1.after rest).files.files.get? name = _
    rw [ih, get?_apply, lookup_apply, Option.map_map]
    rfl

end Workspace

/-! ## All or nothing -/

/-- What a wave does to a file that it names. -/
structure StoredFile.AllOrNothing (find : Lookup) (ms : List Mutation) (before after : StoredFile) :
    Prop where
  /-- The file is read once. -/
  reads : after.reads = before.reads + 1
  /-- The file is written at most once. -/
  writes : after.writes = before.writes ∨ after.writes = before.writes + 1
  /-- It is written if it could be read and all kept mutations could be applied. -/
  writes_iff : after.writes = before.writes + 1 ↔
    before.refusesRead before.reads = false ∧
      ∃ text, find.applyEach before.contents (Mutation.sweep ms) = .ok text
  /-- A write that succeeds replaces the contents by what the kept mutations made of them. -/
  replaced : ∀ text, before.refusesRead before.reads = false →
    find.applyEach before.contents (Mutation.sweep ms) = .ok text →
    before.refusesWrite before.writes = false → after.contents = text
  /-- Otherwise the contents stay. -/
  kept : (before.refusesRead before.reads = true ∨
    (∃ fault, find.applyEach before.contents (Mutation.sweep ms) = .error fault) ∨
    before.refusesWrite before.writes = true) → after.contents = before.contents

namespace StoredFile

variable (find : Lookup) (ms : List Mutation) (f : StoredFile)

theorem allOrNothing_mutated : AllOrNothing find ms f (f.mutated find ms) := by
  have hwrites : (f.mutated find ms).writes
      = f.writes + if (f.edited find ms).isSome then 1 else 0 := rfl
  have hcontents : (f.mutated find ms).contents = (f.written find ms).getD f.contents := rfl
  refine ⟨rfl, ?_, ?_, ?_, ?_⟩
  · rw [hwrites]
    split <;> omega
  · have hiff : (f.edited find ms).isSome = true ↔ f.refusesRead f.reads = false ∧
        ∃ text, find.applyEach f.contents (Mutation.sweep ms) = .ok text := by
      rw [Option.isSome_iff_exists]
      simp only [edited_eq_some_iff, exists_and_left]
    rw [hwrites, ← hiff]
    cases (f.edited find ms).isSome <;> simp
  · intro text hread hedit hwrite
    have hwritten := written_eq_some_iff.2 ⟨hwrite, edited_eq_some_iff.2 ⟨hread, hedit⟩⟩
    rw [hcontents, hwritten]
    rfl
  · intro hfails
    have hwritten : f.written find ms = none := by
      rw [Option.eq_none_iff_forall_ne_some]
      intro text hsome
      obtain ⟨hwrite, hedited⟩ := written_eq_some_iff.1 hsome
      obtain ⟨hread, hedit⟩ := edited_eq_some_iff.1 hedited
      rcases hfails with hfails | ⟨fault, hfails⟩ | hfails
      · rw [hread] at hfails
        cases hfails
      · rw [hedit] at hfails
        cases hfails
      · rw [hwrite] at hfails
        cases hfails
    rw [hcontents, hwritten]
    rfl

theorem afterWave_of_named {name : String} {files : FileMutations}
    (h : files.get? name = some ms) : f.afterWave find name files = f.mutated find ms := by
  rw [afterWave, h]

/-- Waves that do not name a file do not touch it. -/
theorem foldl_afterWave_of_unnamed {name : String} {waves : List FileMutations}
    (h : ∀ files ∈ waves, files.get? name = none) : waves.foldl (afterWave find name) f = f := by
  induction waves with
  | nil => rfl
  | cons files rest ih =>
    have hfiles : f.afterWave find name files = f := by
      rw [afterWave, h files List.mem_cons_self]
    rw [List.foldl_cons, hfiles]
    exact ih (fun k hk => h k (List.mem_cons_of_mem _ hk))

end StoredFile

/-! ## Runs -/

namespace Run

variable {π : Type} {φ : Type} [FileAccess φ]

/-- A run over the files of a workspace. -/
def filesSettings (ask : π → Workspace φ → Except Chain Wave × π) (policy : WavesPolicy)
    (onFileError : FileErrorPolicy) : RunSettings (π × Workspace φ) :=
  ⟨.observing ask, Workspace.applier.second, policy, onFileError⟩

/-- A workspace stands where the waves among the calls so far have left it. -/
def Follows (w : Workspace φ) (s : (π × Workspace φ) × List Call) : Prop :=
  s.1.2 = w.after (s.2.filterMap Call.files?)

variable {ask : π → Workspace φ → Except Chain Wave × π} {policy : WavesPolicy}
  {onFileError : FileErrorPolicy} {w : Workspace φ} {s : (π × Workspace φ) × List Call}

theorem follows_provide (hs : Follows w s) :
    Follows w ((filesSettings ask policy onFileError).recorded.provider.provide s).2 := by
  show s.1.2 = w.after ((s.2 ++ [Call.provide]).filterMap Call.files?)
  rw [List.filterMap_append]
  show s.1.2 = w.after (s.2.filterMap Call.files? ++ [])
  rw [List.append_nil, hs]

theorem follows_apply (files : FileMutations) (hs : Follows w s) :
    Follows w ((filesSettings ask policy onFileError).recorded.applier.apply s files).2.1 := by
  show (s.1.2.apply files).2.1 = w.after ((s.2 ++ [Call.apply files]).filterMap Call.files?)
  rw [List.filterMap_append]
  show _ = w.after (s.2.filterMap Call.files? ++ [files])
  rw [Workspace.after_concat, hs]

/-- A run leaves the workspace that the waves it applies leave. -/
theorem world_eq_after (ask : π → Workspace φ → Except Chain Wave × π) (policy : WavesPolicy)
    (onFileError : FileErrorPolicy) (budget : Nat) (q : π) (w : Workspace φ) :
    (start (filesSettings ask policy onFileError) budget (q, w)).state.world.2
      = w.after (applied (filesSettings ask policy onFileError) budget (q, w)) := by
  have hfollows : Follows w (start (filesSettings ask policy onFileError).recorded budget
      ((q, w), [])).state.world :=
    world_invariant (fun _ => follows_provide) (fun _ => follows_apply) rfl
  rw [← start_recorded _ budget (q, w) []]
  exact hfollows

/-- However a run over files in memory goes, each wave that it applies reads a file that it
names once, writes it once if it could be read and all kept mutations could be applied, and
changes it only by a write that succeeds, into what the kept mutations make of what was read.
Hence every file ends up as the waves leave it one after the other, each either with what its
pipeline returned or as it was, and a file that no wave names is not touched. -/
theorem run_files {π : Type} (ask : π → Workspace Store → Except Chain Wave × π)
    (policy : WavesPolicy) (onFileError : FileErrorPolicy) (budget : Nat) (q : π)
    (w : Workspace Store) :
    let settings := filesSettings ask policy onFileError
    let waves := applied settings budget (q, w)
    let final := (start settings budget (q, w)).state.world.2
    let find := w.resolver.lookup
    final = w.after waves ∧
    (∀ past files rest, waves = past ++ files :: rest →
      ∀ name before, (w.after past).files.files.get? name = some before →
      ∃ after, ((w.after past).apply files).2.1.files.files.get? name = some after ∧
        (∀ ms, files.get? name = some ms → before.AllOrNothing find ms after ∧
          after.contents = ((w.after past).applyFile name ms).1.toOption.getD before.contents) ∧
        (files.get? name = none → after = before)) ∧
    (∀ name, final.files.files.get? name = (w.files.files.get? name).map
      (fun f => waves.foldl (StoredFile.afterWave find name) f)) ∧
    (∀ name, (∀ files ∈ waves, files.get? name = none) →
      final.files.files.get? name = w.files.files.get? name) := by
  intro settings waves final find
  have hfinal : final = w.after waves := world_eq_after ask policy onFileError budget q w
  have hget : ∀ name, final.files.files.get? name = (w.files.files.get? name).map
      (fun f => waves.foldl (StoredFile.afterWave find name) f) := by
    intro name
    rw [hfinal]
    exact w.get?_after waves name
  refine ⟨hfinal, ?_, hget, ?_⟩
  · intro past files rest _ name before hbefore
    have hlookup : (w.after past).resolver.lookup = find := w.lookup_after past
    refine ⟨before.afterWave find name files, ?_, ?_, ?_⟩
    · rw [Workspace.get?_apply, hbefore, hlookup]
      rfl
    · intro ms hnamed
      have hreturned : ((w.after past).applyFile name ms).1.toOption
          = before.written (w.after past).resolver.lookup ms :=
        ((w.after past).applyFile_stored hbefore).1
      rw [StoredFile.afterWave_of_named find ms before hnamed, hreturned, hlookup]
      exact ⟨before.allOrNothing_mutated find ms, rfl⟩
    · intro hunnamed
      rw [StoredFile.afterWave, hunnamed]
  · intro name hunnamed
    rw [hget name]
    cases w.files.files.get? name with
    | none => rfl
    | some f => exact congrArg some (f.foldl_afterWave_of_unnamed find hunnamed)

/-- Two waves, in the first of which one file is edited and the read of another is refused. -/
theorem run_files_two_waves :
    let first : FileMutations := .ofList [("a.txt", [.insert (.point 0) "x"]), ("b.txt", [])]
    let second : FileMutations := .ofList [("b.txt", [])]
    let files : Store := ⟨.ofList [("a.txt", .new "one" [] []), ("b.txt", .new "two" [0] []),
      ("c.txt", .new "three" [] [])]⟩
    let w : Workspace Store := .new files .builtins
    let settings := filesSettings (fun ws _ => Source.queue.provide ws) ⟨0, none⟩ .proceed
    let final := (start settings 3 ([⟨some first⟩, ⟨some second⟩], w)).state.world.2
    ∃ a b, (w.apply first).2.1.files.files.get? "a.txt" = some a ∧ a.contents = "xone" ∧
      a.writes = 1 ∧ (w.apply first).2.1.files.files.get? "b.txt" = some b ∧
      b.contents = "two" ∧ b.reads = 1 ∧ b.writes ≠ 1 ∧
      final.files.files.get? "c.txt" = w.files.files.get? "c.txt" := by
  intro first second files w settings final
  have hstops : StopsAt ⟨0, none⟩ (queued [⟨some first⟩, ⟨some second⟩]) 2 := by
    refine ⟨.inr ⟨rfl, by decide⟩, ?_⟩
    rintro i hi (hmax | ⟨hnone, -⟩)
    · cases hmax
    · obtain rfl | rfl : i = 0 ∨ i = 1 := by omega
      · cases hnone
      · cases hnone
  have hwaves : applied settings 3 ([⟨some first⟩, ⟨some second⟩], w) = [first, second] :=
    (endsAt_of_stopsAt rfl (fun s files reason => failsOnlyFiles_workspace s.2 files reason)
      (offers_queue Workspace.applier ⟨0, none⟩ _ w) hstops (by decide : 2 < 3)).applies
  have hinsert : (w.resolver.lookup.dispatch "one" (.insert (.point 0) "x")).result
      = .ok "xone" := by
    rw [Lookup.dispatch_leaf (show w.resolver.lookup _ = some .insert from rfl) rfl rfl]
    rfl
  obtain ⟨-, hwave, -, hunnamed⟩ := run_files (fun ws _ => Source.queue.provide ws) ⟨0, none⟩
    .proceed 3 [⟨some first⟩, ⟨some second⟩] w
  obtain ⟨a, hgeta, hnameda, -⟩ := hwave [] first [second] hwaves "a.txt" _ rfl
  obtain ⟨b, hgetb, hnamedb, -⟩ := hwave [] first [second] hwaves "b.txt" _ rfl
  have ha := (hnameda _ rfl).1
  have hb := (hnamedb _ rfl).1
  have hedit : w.resolver.lookup.applyEach "one" (Mutation.sweep [.insert (.point 0) "x"])
      = .ok "xone" := Lookup.applyEach_cons_ok hinsert []
  refine ⟨a, b, hgeta, ha.replaced "xone" rfl hedit rfl, ha.writes_iff.2 ⟨rfl, "xone", hedit⟩,
    hgetb, hb.kept (.inl rfl), hb.reads, ?_, hunnamed "c.txt" ?_⟩
  · intro hwritten
    cases (hb.writes_iff.1 hwritten).1
  · show ∀ files ∈ applied settings 3 _, Dict.get? files "c.txt" = none
    rw [hwaves]
    intro files hfiles
    obtain rfl | rfl : files = first ∨ files = second := by simpa using hfiles
    · rfl
    · rfl

end Run

end EditWaves
