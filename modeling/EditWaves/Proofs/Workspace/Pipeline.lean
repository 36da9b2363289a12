import EditWaves.Proofs.Resolver.Sequence
import EditWaves.Workspace

/-!
# The pipeline of one file

`Workspace.applyFile` reads, mutates and writes.  Here is what it comes to for each
way that this can go, for any place that holds files: `applyFile_unreadable`,
`applyFile_fault` and `applyFile_edited`.  The mutations enter only through
`Lookup.applyEach`, the fold of the lookup that the resolver stands for.

The files of a wave go through it one after the other, and those that failed are listed
(`failures_cons`, `result_apply`).
-/

namespace EditWaves

/-- The contents after applying mutations one after another, up to the first fault. -/
def Lookup.applyEach (find : Lookup) (contents : String) (ms : List Mutation) :
    Except MutationError String :=
  ms.foldlM (fun text m => (find.dispatch text m).result) contents

namespace Lookup

@[simp] theorem applyEach_nil (find : Lookup) (contents : String) :
    find.applyEach contents [] = .ok contents := rfl

theorem applyEach_cons_ok {find : Lookup} {contents text : String} {m : Mutation}
    (h : (find.dispatch contents m).result = .ok text) (rest : List Mutation) :
    find.applyEach contents (m :: rest) = find.applyEach text rest := by
  rw [applyEach, List.foldlM_cons, h]
  rfl

theorem applyEach_cons_error {find : Lookup} {contents : String} {m : Mutation}
    {fault : MutationError} (h : (find.dispatch contents m).result = .error fault)
    (rest : List Mutation) : find.applyEach contents (m :: rest) = .error fault := by
  rw [applyEach, List.foldlM_cons, h]
  rfl

end Lookup

/-- Applying mutations in sequence folds them over the contents. -/
theorem Lookup.result_dispatchAll (find : Lookup) (contents : String) (ms : List Mutation) :
    (find.dispatchAll contents ms).result = find.applyEach contents ms := by
  induction ms generalizing contents with
  | nil => rw [Lookup.dispatchAll_nil, Lookup.applyEach_nil]
  | cons m rest ih =>
    rw [Lookup.dispatchAll_cons, Effect.andThen]
    cases hm : (find.dispatch contents m).result with
    | ok text =>
      rw [Lookup.applyEach_cons_ok hm]
      exact ih text
    | error fault => rw [Lookup.applyEach_cons_error hm]

/-- A `multiple` applies its children in descending order. -/
theorem Resolver.result_dispatch_multiple {r : Resolver} {contents : String} {range : EditRange}
    {children : List Mutation} (hmultiple : r.lookup Tag.multiple = some .multiple) :
    (r.dispatch contents (.multiple range children)).result
      = r.lookup.applyEach contents (Mutation.lastToFirst children) := by
  rw [result_dispatch, ← Lookup.dispatchAll_parts contents hmultiple, Lookup.result_dispatchAll]
  rfl

/-- Applying the mutations of a file has the effect of the lookup that the resolver stands
for. -/
theorem agrees_mutateAll (r : Resolver) (file contents : String) (ms : List Mutation) :
    Resolver.Agrees (mutateAll r file contents ms) r.lookup (r.lookup.dispatchAll contents ms) := by
  induction ms generalizing r contents with
  | nil =>
    rw [Lookup.dispatchAll_nil]
    exact ⟨rfl, rfl⟩
  | cons m rest ih =>
    have hm := r.agrees_dispatch contents m
    rw [mutateAll, Lookup.dispatchAll_cons, Effect.andThen, ← hm.effect]
    cases hd : (r.dispatch contents m).result with
    | ok text =>
      have hrest := ih (r.dispatch contents m).resolver text
      rw [hm.lookup] at hrest
      simp only [Dispatched.effect, hd, ← hrest.effect]
      refine ⟨?_, hrest.lookup⟩
      simp only [Dispatched.effect, Log.skipped_append]
      rfl
    | error fault =>
      simp only [Dispatched.effect, hd]
      exact ⟨by rw [Dispatched.effect, hd], hm.lookup⟩

theorem result_mutateAll (r : Resolver) (file contents : String) (ms : List Mutation) :
    (mutateAll r file contents ms).result = r.lookup.applyEach contents ms := by
  rw [← Lookup.result_dispatchAll, ← (agrees_mutateAll r file contents ms).effect]
  rfl

theorem skipped_mutateAll (r : Resolver) (file contents : String) (ms : List Mutation) :
    Log.skipped (mutateAll r file contents ms).log = (r.lookup.dispatchAll contents ms).skipped := by
  rw [← (agrees_mutateAll r file contents ms).effect]
  rfl

theorem lookup_mutateAll (r : Resolver) (file contents : String) (ms : List Mutation) :
    (mutateAll r file contents ms).resolver.lookup = r.lookup :=
  (agrees_mutateAll r file contents ms).lookup

/-- A mutation that overlaps another one is not one that was skipped. -/
theorem skipped_dropNotes (ms : List Mutation) : Log.skipped (dropNotes ms) = [] := by
  rw [dropNotes, Log.skipped, List.filterMap_map, List.filterMap_eq_nil_iff]
  intro d _
  rfl

namespace Workspace

/-- A workspace with the built-in mutators and one file in memory. -/
def single (name contents : String) : Workspace Store :=
  .new ⟨.ofList [(name, .new contents [] [])]⟩ .builtins

variable {φ : Type} [FileAccess φ] {w : Workspace φ} {name contents : String} {files : φ}
  {ms : List Mutation}

/-- A file that cannot be read is left alone. -/
theorem applyFile_unreadable {e : FileError}
    (hread : FileAccess.read w.files name = (.error e, files)) :
    (w.applyFile name ms).1 = .error e ∧ (w.applyFile name ms).2.1.files = files := by
  simp only [applyFile, readContents, hread, and_self]

/-- A file one of whose mutations fails is read and left alone. -/
theorem applyFile_fault {fault : MutationError}
    (hread : FileAccess.read w.files name = (.ok contents, files))
    (hfault : w.resolver.lookup.applyEach contents (Mutation.sweep ms) = .error fault) :
    (w.applyFile name ms).1 = .error (.mutation fault) ∧
      (w.applyFile name ms).2.1.files = files := by
  rw [← result_mutateAll w.resolver name] at hfault
  simp only [applyFile, readContents, hread, mutateContents, hfault, Except.mapError, and_self]

/-- A file whose mutations succeed is read and then written once, with the result. -/
theorem applyFile_edited {text : String}
    (hread : FileAccess.read w.files name = (.ok contents, files))
    (hedit : w.resolver.lookup.applyEach contents (Mutation.sweep ms) = .ok text) :
    (w.applyFile name ms).1 = (FileAccess.write files name text).1.map (fun _ => text) ∧
      (w.applyFile name ms).2.1.files = (FileAccess.write files name text).2 := by
  rw [← result_mutateAll w.resolver name] at hedit
  simp only [applyFile, readContents, hread, mutateContents, hedit, Except.mapError,
    writeContents, and_self]

/-- The pipeline of a file does not change what the resolver stands for. -/
theorem lookup_applyFile (w : Workspace φ) (name : String) (ms : List Mutation) :
    (w.applyFile name ms).2.1.resolver.lookup = w.resolver.lookup := by
  rcases hread : FileAccess.read w.files name with ⟨result, files⟩
  cases result with
  | error e => simp only [applyFile, readContents, hread]
  | ok contents =>
    have hlookup := lookup_mutateAll w.resolver name contents (Mutation.sweep ms)
    cases hmutate : (mutateAll w.resolver name contents (Mutation.sweep ms)).result with
    | error fault =>
      simp only [applyFile, readContents, hread, mutateContents, hmutate, Except.mapError, hlookup]
    | ok text =>
      simp only [applyFile, readContents, hread, mutateContents, hmutate, Except.mapError,
        writeContents, hlookup]

/-- The mutations that are skipped are those that the lookup skips in what was read. -/
theorem skipped_applyFile (w : Workspace φ) (name : String) (ms : List Mutation) :
    Log.skipped (w.applyFile name ms).2.2 = match (FileAccess.read w.files name).1 with
      | .error _ => []
      | .ok contents => (w.resolver.lookup.dispatchAll contents (Mutation.sweep ms)).skipped := by
  have hnotes := skipped_dropNotes ms
  rcases hread : FileAccess.read w.files name with ⟨result, files⟩
  cases result with
  | error e => simp only [applyFile, readContents, hread, hnotes]
  | ok contents =>
    have hskipped := skipped_mutateAll w.resolver name contents (Mutation.sweep ms)
    cases hmutate : (mutateAll w.resolver name contents (Mutation.sweep ms)).result with
    | error fault =>
      simp only [applyFile, readContents, hread, mutateContents, hmutate, Except.mapError,
        Log.skipped_append, hnotes, hskipped, List.nil_append]
    | ok text =>
      simp only [applyFile, readContents, hread, mutateContents, hmutate, Except.mapError,
        writeContents, Log.skipped_append, hnotes, hskipped, List.nil_append]

/-- A pipeline depends on its mutations only through the effect of those that are kept. -/
theorem applyFile_congr (w : Workspace φ) (name : String) {ms ns : List Mutation}
    (heffect : ∀ contents, w.resolver.lookup.dispatchAll contents (Mutation.sweep ms)
      = w.resolver.lookup.dispatchAll contents (Mutation.sweep ns)) :
    (w.applyFile name ms).1 = (w.applyFile name ns).1 ∧
      (w.applyFile name ms).2.1.files = (w.applyFile name ns).2.1.files ∧
      Log.skipped (w.applyFile name ms).2.2 = Log.skipped (w.applyFile name ns).2.2 := by
  have hskipped : Log.skipped (w.applyFile name ms).2.2
      = Log.skipped (w.applyFile name ns).2.2 := by
    rw [skipped_applyFile, skipped_applyFile]
    simp only [heffect]
  rcases hread : FileAccess.read w.files name with ⟨result, files⟩
  cases result with
  | error e =>
    have hfails : ∀ ks, (w.applyFile name ks).1 = .error e ∧
        (w.applyFile name ks).2.1.files = files := fun _ => applyFile_unreadable hread
    exact ⟨(hfails ms).1.trans (hfails ns).1.symm, (hfails ms).2.trans (hfails ns).2.symm, hskipped⟩
  | ok contents =>
    have hsame := congrArg Effect.result (heffect contents)
    rw [Lookup.result_dispatchAll, Lookup.result_dispatchAll] at hsame
    cases hedit : w.resolver.lookup.applyEach contents (Mutation.sweep ms) with
    | error fault =>
      obtain ⟨hms, hmsfiles⟩ := applyFile_fault hread hedit
      obtain ⟨hns, hnsfiles⟩ := applyFile_fault hread (hsame.symm.trans hedit)
      exact ⟨hms.trans hns.symm, hmsfiles.trans hnsfiles.symm, hskipped⟩
    | ok text =>
      obtain ⟨hms, hmsfiles⟩ := applyFile_edited hread hedit
      obtain ⟨hns, hnsfiles⟩ := applyFile_edited hread (hsame.symm.trans hedit)
      exact ⟨hms.trans hns.symm, hmsfiles.trans hnsfiles.symm, hskipped⟩

/-! ## The files of a wave -/

/-- Whatever becomes of a file, the next ones follow. -/
theorem applyFiles_cons (w : Workspace φ) (name : String) (ms : List Mutation)
    (rest : List (String × List Mutation)) :
    (w.applyFiles ((name, ms) :: rest)).2.1 = ((w.applyFile name ms).2.1.applyFiles rest).2.1 := by
  rw [applyFiles]
  rcases w.applyFile name ms with ⟨_ | _, after, log⟩ <;> rfl

/-- A file is listed with the fault of its pipeline if that failed. -/
theorem failures_cons (w : Workspace φ) (name : String) (ms : List Mutation)
    (rest : List (String × List Mutation)) :
    (w.applyFiles ((name, ms) :: rest)).1
      = (match (w.applyFile name ms).1 with
        | .ok _ => []
        | .error e => [(name, e)]) ++ ((w.applyFile name ms).2.1.applyFiles rest).1 := by
  rw [applyFiles]
  rcases w.applyFile name ms with ⟨_ | _, after, log⟩ <;> rfl

theorem log_cons (w : Workspace φ) (name : String) (ms : List Mutation)
    (rest : List (String × List Mutation)) :
    (w.applyFiles ((name, ms) :: rest)).2.2
      = (w.applyFile name ms).2.2 ++ ((w.applyFile name ms).2.1.applyFiles rest).2.2 := by
  rw [applyFiles]
  rcases w.applyFile name ms with ⟨_ | _, after, log⟩ <;> rfl

/-- The files that failed stand in the order of the wave. -/
theorem failures_sublist (w : Workspace φ) (l : List (String × List Mutation)) :
    ((w.applyFiles l).1.map Prod.fst).Sublist (l.map Prod.fst) := by
  induction l generalizing w with
  | nil => exact .slnil
  | cons e rest ih =>
    obtain ⟨name, ms⟩ := e
    rw [failures_cons, List.map_append, List.map_cons]
    cases (w.applyFile name ms).1 with
    | ok text => exact (ih _).cons name
    | error fault => exact (ih _).cons_cons name

/-- What a wave leaves is what its files leave, whether any failed or not. -/
theorem workspace_apply (w : Workspace φ) (files : FileMutations) :
    (w.apply files).2.1 = (w.applyFiles files.entries).2.1 := by
  rw [apply]
  rcases w.applyFiles files.entries with ⟨failures, after, log⟩
  cases failures <;> rfl

/-- A wave succeeds if no file failed, and otherwise lists those that did. -/
theorem result_apply (w : Workspace φ) (files : FileMutations) :
    (w.apply files).1 = if (w.applyFiles files.entries).1.isEmpty then .ok ()
      else .error (.files (w.applyFiles files.entries).1) := by
  rw [apply]
  rcases w.applyFiles files.entries with ⟨failures, after, log⟩
  cases failures <;> rfl

theorem lookup_applyFiles (w : Workspace φ) (l : List (String × List Mutation)) :
    (w.applyFiles l).2.1.resolver.lookup = w.resolver.lookup := by
  induction l generalizing w with
  | nil => rfl
  | cons e rest ih =>
    obtain ⟨name, ms⟩ := e
    rw [applyFiles_cons, ih, lookup_applyFile]

theorem lookup_apply (w : Workspace φ) (files : FileMutations) :
    (w.apply files).2.1.resolver.lookup = w.resolver.lookup := by
  rw [workspace_apply, lookup_applyFiles]

end Workspace

end EditWaves
