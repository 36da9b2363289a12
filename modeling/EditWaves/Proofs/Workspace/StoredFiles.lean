import EditWaves.Proofs.Dict.Lookup
import EditWaves.Proofs.Workspace.Pipeline

/-!
# Files in memory under a wave

What a wave does to the files of a `Store`, one file at a time.  `StoredFile.mutated`
says it without the store: a file is read once, it is written once if it could be read
and all its kept mutations could be applied, and its contents are replaced if it could be
written too.

* `get?_applyFile`: the pipeline of a file mutates that file and no other.
* `get?_apply`: a wave mutates the files that it names and no other.
-/

namespace EditWaves

/-! ## One file -/

namespace StoredFile

/-- A file after it has been read. -/
def afterRead (f : StoredFile) : StoredFile := { f with reads := f.reads + 1 }

/-- A file after it has been written, which changes it unless the write is refused. -/
def afterWrite (f : StoredFile) (text : String) : StoredFile :=
  { f with
    writes := f.writes + 1
    contents := if f.refusesWrite f.writes then f.contents else text }

/-- What the mutations of a file make of it, if it can be read and all can be applied. -/
def edited (find : Lookup) (ms : List Mutation) (f : StoredFile) : Option String :=
  if f.refusesRead f.reads then none
  else (find.applyEach f.contents (Mutation.sweep ms)).toOption

/-- What is written to a file, if it can be written too. -/
def written (find : Lookup) (ms : List Mutation) (f : StoredFile) : Option String :=
  if f.refusesWrite f.writes then none else f.edited find ms

/-- A file after its mutations: with what was written, or with what it held before. -/
def mutated (find : Lookup) (ms : List Mutation) (f : StoredFile) : StoredFile :=
  { f with
    reads := f.reads + 1
    writes := f.writes + (if (f.edited find ms).isSome then 1 else 0)
    contents := (f.written find ms).getD f.contents }

/-- A file after a wave. -/
def afterWave (find : Lookup) (name : String) (f : StoredFile) (files : FileMutations) :
    StoredFile :=
  match files.get? name with
  | some ms => f.mutated find ms
  | none => f

variable {find : Lookup} {ms : List Mutation} {f : StoredFile} {text : String}

theorem edited_eq_some_iff : f.edited find ms = some text ↔
    f.refusesRead f.reads = false ∧ find.applyEach f.contents (Mutation.sweep ms) = .ok text := by
  unfold edited
  cases f.refusesRead f.reads with
  | true => simp
  | false =>
    cases find.applyEach f.contents (Mutation.sweep ms) with
    | error fault => simp [Except.toOption]
    | ok result => simp [Except.toOption]

theorem written_eq_some_iff : f.written find ms = some text ↔
    f.refusesWrite f.writes = false ∧ f.edited find ms = some text := by
  unfold written
  cases f.refusesWrite f.writes with
  | true => simp
  | false => simp

/-- A file that could not be read or has a fault among its mutations is only read. -/
theorem mutated_of_edited_none (h : f.edited find ms = none) : f.mutated find ms = f.afterRead := by
  rw [mutated, written, h, ite_self]
  rfl

theorem mutated_of_edited_some (h : f.edited find ms = some text) :
    f.mutated find ms = f.afterRead.afterWrite text := by
  rw [mutated, written, h, afterWrite]
  show _ = { f with
    reads := f.reads + 1
    writes := f.writes + 1
    contents := if f.refusesWrite f.writes then f.contents else text : StoredFile }
  cases f.refusesWrite f.writes <;> rfl

end StoredFile

/-! ## The store -/

namespace Store

variable {s : Store} {name : String} {f : StoredFile}

theorem read_missing (h : s.files.get? name = none) :
    s.read name = (.error (.other "no such file"), s) := by
  rw [read, h]

theorem read_refused (h : s.files.get? name = some f) (hread : f.refusesRead f.reads = true) :
    s.read name = (.error (.other "read rejected"), ⟨s.files.insert name f.afterRead⟩) := by
  simp only [read, h, hread, if_true]
  rfl

theorem read_stored (h : s.files.get? name = some f) (hread : f.refusesRead f.reads = false) :
    s.read name = (.ok f.contents, ⟨s.files.insert name f.afterRead⟩) := by
  simp only [read, h, hread, Bool.false_eq_true, if_false]
  rfl

theorem result_read (s : Store) (name : String) :
    (s.read name).1 = match s.files.get? name with
      | none => .error (.other "no such file")
      | some f => if f.refusesRead f.reads then .error (.other "read rejected")
        else .ok f.contents := by
  cases hget : s.files.get? name with
  | none => rw [read_missing hget]
  | some f =>
    cases hrefuses : f.refusesRead f.reads with
    | true => simp only [read_refused hget hrefuses, hrefuses, if_true]
    | false => simp only [read_stored hget hrefuses, hrefuses, Bool.false_eq_true, if_false]

theorem result_write (s : Store) (name text : String) :
    (s.write name text).1 = match s.files.get? name with
      | none => .error (.other "write rejected")
      | some f => if f.refusesWrite f.writes then .error (.other "write rejected")
        else .ok () := by
  unfold write
  cases s.files.get? name with
  | none => rfl
  | some f => cases hrefuses : f.refusesWrite f.writes <;> simp only [hrefuses] <;> rfl

theorem get?_read (s : Store) (name k : String) :
    (s.read name).2.files.get? k = if name = k then (s.files.get? k).map StoredFile.afterRead
      else s.files.get? k := by
  cases hget : s.files.get? name with
  | none =>
    rw [read_missing hget]
    exact Dict.get?_of_none hget _ k
  | some f =>
    have hread : (s.read name).2 = ⟨s.files.insert name f.afterRead⟩ := by
      cases hrefuses : f.refusesRead f.reads with
      | true => rw [read_refused hget hrefuses]
      | false => rw [read_stored hget hrefuses]
    rw [hread]
    exact Dict.get?_insert_changed hget _ k

theorem write_missing (h : s.files.get? name = none) (text : String) :
    s.write name text = (.error (.other "write rejected"), s) := by
  rw [write, h]

theorem write_stored (h : s.files.get? name = some f) (text : String) :
    (s.write name text).2 = ⟨s.files.insert name (f.afterWrite text)⟩ := by
  simp only [write, h, StoredFile.afterWrite]
  cases f.refusesWrite f.writes <;> rfl

theorem get?_write (s : Store) (name text k : String) :
    (s.write name text).2.files.get? k
      = if name = k then (s.files.get? k).map (StoredFile.afterWrite · text)
        else s.files.get? k := by
  cases hget : s.files.get? name with
  | none =>
    rw [write_missing hget]
    exact Dict.get?_of_none hget _ k
  | some f =>
    rw [write_stored hget]
    exact Dict.get?_insert_changed hget (StoredFile.afterWrite · text) k

end Store

/-! ## The files of a wave -/

namespace Workspace

variable (w : Workspace Store) (name : String) (ms : List Mutation)

theorem files_applyFile_missing {name : String} (h : w.files.files.get? name = none) :
    (w.applyFile name ms).2.1.files = w.files :=
  (applyFile_unreadable (Store.read_missing h)).2

variable {name ms} {f : StoredFile}

/-- A file that cannot be read, or has a fault among its mutations, is only read. -/
theorem applyFile_unedited (h : w.files.files.get? name = some f)
    (hedited : f.edited w.resolver.lookup ms = none) :
    ∃ e, (w.applyFile name ms).1 = .error e ∧
      (w.applyFile name ms).2.1.files = ⟨w.files.files.insert name f.afterRead⟩ := by
  cases hread : f.refusesRead f.reads with
  | true => exact ⟨_, applyFile_unreadable (Store.read_refused h hread)⟩
  | false =>
    cases hedit : w.resolver.lookup.applyEach f.contents (Mutation.sweep ms) with
    | error fault => exact ⟨_, applyFile_fault (Store.read_stored h hread) hedit⟩
    | ok text => rw [StoredFile.edited_eq_some_iff.2 ⟨hread, hedit⟩] at hedited; cases hedited

/-- Every other file is read and then written. -/
theorem applyFile_rewritten {text : String} (h : w.files.files.get? name = some f)
    (hedited : f.edited w.resolver.lookup ms = some text) :
    (w.applyFile name ms).1.toOption = (if f.refusesWrite f.writes then none else some text) ∧
      (w.applyFile name ms).2.1.files
        = ⟨(w.files.files.insert name f.afterRead).insert name (f.afterRead.afterWrite text)⟩ := by
  obtain ⟨hread, hedit⟩ := StoredFile.edited_eq_some_iff.1 hedited
  obtain ⟨hreturned, hfiles⟩ := applyFile_edited (Store.read_stored h hread) hedit
  have hget : (w.files.files.insert name f.afterRead).get? name = some f.afterRead := by
    rw [Dict.get?_insert, if_pos rfl]
  have hresult := Store.result_write ⟨w.files.files.insert name f.afterRead⟩ name text
  rw [hget] at hresult
  have hwrite := Store.write_stored (s := ⟨w.files.files.insert name f.afterRead⟩) hget text
  refine ⟨?_, hfiles.trans hwrite⟩
  rw [hreturned]
  show (Except.map _ (Store.write _ name text).1).toOption = _
  rw [hresult]
  show (Except.map _ (if f.refusesWrite f.writes then _ else _)).toOption = _
  cases f.refusesWrite f.writes <;> rfl

/-- A file that is there ends up mutated, and what its pipeline returns is what was
written. -/
theorem applyFile_stored (h : w.files.files.get? name = some f) :
    (w.applyFile name ms).1.toOption = f.written w.resolver.lookup ms ∧
      ∀ k, (w.applyFile name ms).2.1.files.files.get? k
        = if name = k then some (f.mutated w.resolver.lookup ms) else w.files.files.get? k := by
  cases hedited : f.edited w.resolver.lookup ms with
  | none =>
    obtain ⟨e, hresult, hfiles⟩ := applyFile_unedited w h hedited
    rw [hresult, hfiles, StoredFile.written, StoredFile.mutated_of_edited_none hedited, hedited,
      ite_self]
    exact ⟨rfl, fun k => Dict.get?_insert _ name k _⟩
  | some text =>
    obtain ⟨hresult, hfiles⟩ := applyFile_rewritten w h hedited
    rw [hresult, hfiles, StoredFile.written, StoredFile.mutated_of_edited_some hedited, hedited]
    refine ⟨rfl, ?_⟩
    intro k
    rw [Dict.get?_insert, Dict.get?_insert]
    split <;> rfl

variable (name ms)

/-- The pipeline of a file mutates that file, if it is there, and no other. -/
theorem get?_applyFile (k : String) :
    (w.applyFile name ms).2.1.files.files.get? k
      = if name = k then (w.files.files.get? k).map (StoredFile.mutated w.resolver.lookup ms)
        else w.files.files.get? k := by
  cases hget : w.files.files.get? name with
  | none =>
    rw [files_applyFile_missing w ms hget]
    exact Dict.get?_of_none hget _ k
  | some f =>
    rw [(applyFile_stored w hget).2, ← Dict.get?_insert]
    exact Dict.get?_insert_changed hget _ k

/-- The files of a wave are mutated one by one, and each only once since their names
differ. -/
theorem get?_applyFiles {l : List (String × List Mutation)} (hl : (l.map Prod.fst).Nodup)
    (k : String) : (w.applyFiles l).2.1.files.files.get? k
      = (w.files.files.get? k).map (fun f => match Dict.find? k l with
        | some ms => f.mutated w.resolver.lookup ms
        | none => f) := by
  induction l generalizing w with
  | nil => exact Option.map_id'.symm
  | cons e rest ih =>
    obtain ⟨name, ms⟩ := e
    obtain ⟨hname, hrest⟩ := List.nodup_cons.1 hl
    rw [applyFiles_cons, ih _ hrest, lookup_applyFile, get?_applyFile, Dict.find?]
    by_cases hk : name = k
    · have hnone : Dict.find? k rest = none := by
        refine Dict.find?_eq_none_iff.2 ?_
        intro e he heq
        have hmem : e.1 ∈ rest.map Prod.fst := List.mem_map_of_mem he
        rw [heq, ← hk] at hmem
        exact hname hmem
      rw [if_pos hk, if_pos hk, hnone, Option.map_map]
      rfl
    · rw [if_neg hk, if_neg hk]

variable (files : FileMutations)

/-- A wave mutates the files that it names and no other. -/
theorem get?_apply (k : String) : (w.apply files).2.1.files.files.get? k
    = (w.files.files.get? k).map (fun f => f.afterWave w.resolver.lookup k files) := by
  rw [workspace_apply]
  exact get?_applyFiles w files.nodup_keys k

end Workspace

end EditWaves
