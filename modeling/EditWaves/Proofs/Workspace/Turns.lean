import EditWaves.Proofs.Result
import EditWaves.Proofs.Workspace.Pipeline

/-!
# The turns of a wave

The pipelines of a wave take their turns one after the other, each in the workspace that the ones
before it have left.  Whether a turn succeeds is said here by its three steps alone, and what a wave
reports by which of its turns succeed.

* `Turn.succeeds_iff`: a turn succeeds if its pipeline returns contents.
* `mem_failures_iff`: the files that are listed are those whose turns fail.
* `apply_eq_ok_iff`: a wave succeeds if all of its turns do.
-/

namespace EditWaves

/-- The turn of a pipeline. -/
structure Turn (φ : Type) where
  /-- What the turns before it have left. -/
  workspace : Workspace φ
  name : String
  mutations : List Mutation

variable {φ : Type} [FileAccess φ]

namespace Turn

/-- The file can be read, all mutations that are kept can be applied to what was read, and the
result can be written. -/
def Succeeds (t : Turn φ) : Prop :=
  ∃ contents files text, FileAccess.read t.workspace.files t.name = (.ok contents, files) ∧
    t.workspace.resolver.lookup.applyEach contents (Mutation.sweep t.mutations) = .ok text ∧
    (FileAccess.write files t.name text).1 = .ok ()

/-- A turn succeeds exactly if its pipeline returns what was written. -/
theorem succeeds_iff {t : Turn φ} :
    t.Succeeds ↔ ∃ text, (t.workspace.applyFile t.name t.mutations).1 = .ok text := by
  constructor
  · rintro ⟨contents, files, text, hread, hedit, hwrite⟩
    refine ⟨text, ?_⟩
    rw [(Workspace.applyFile_edited hread hedit).1, hwrite]
    rfl
  · rintro ⟨text, htext⟩
    rcases hread : FileAccess.read t.workspace.files t.name with ⟨e | contents, files⟩
    · simp [(Workspace.applyFile_unreadable hread).1] at htext
    cases hedit : t.workspace.resolver.lookup.applyEach contents (Mutation.sweep t.mutations) with
    | error fault => simp [(Workspace.applyFile_fault hread hedit).1] at htext
    | ok edited =>
      rw [(Workspace.applyFile_edited hread hedit).1] at htext
      obtain ⟨u, hwrite, -⟩ := Result.map_eq_ok htext
      exact ⟨contents, files, edited, hread, hedit, hwrite⟩

end Turn

namespace Workspace

/-- The turns of files whose pipelines run one after the other. -/
def turns (w : Workspace φ) : List (String × List Mutation) → List (Turn φ)
  | [] => []
  | (name, ms) :: rest => ⟨w, name, ms⟩ :: (w.applyFile name ms).2.1.turns rest

/-- Each file has its turn, with its mutations. -/
theorem entries_turns (w : Workspace φ) (l : List (String × List Mutation)) :
    (w.turns l).map (fun t => (t.name, t.mutations)) = l := by
  induction l generalizing w with
  | nil => rfl
  | cons e rest ih => simp [turns, ih]

theorem names_turns (w : Workspace φ) (l : List (String × List Mutation)) :
    (w.turns l).map Turn.name = l.map Prod.fst := by
  have hnames := congrArg (List.map Prod.fst) (w.entries_turns l)
  rwa [List.map_map] at hnames

/-- The files that are listed are those whose turns fail. -/
theorem mem_failures_iff {w : Workspace φ} {l : List (String × List Mutation)} {name : String} :
    name ∈ (w.applyFiles l).1.map Prod.fst ↔ ∃ t ∈ w.turns l, t.name = name ∧ ¬ t.Succeeds := by
  induction l generalizing w with
  | nil => simp [applyFiles, turns]
  | cons e rest ih =>
    obtain ⟨k, ms⟩ := e
    have hturn : (Turn.mk w k ms).Succeeds ↔ ∃ text, (w.applyFile k ms).1 = .ok text :=
      Turn.succeeds_iff
    rw [failures_cons, List.map_append, List.mem_append, ih, turns]
    cases hresult : (w.applyFile k ms).1 with
    | ok text => simp [hturn, hresult]
    | error fault => simp [hturn, hresult, eq_comm]

/-- A wave succeeds exactly if all of its turns do. -/
theorem apply_eq_ok_iff {w : Workspace φ} {files : FileMutations} :
    (w.apply files).1 = .ok () ↔ ∀ t ∈ w.turns files.entries, t.Succeeds := by
  have hfailures : (w.applyFiles files.entries).1 = [] ↔
      ∀ t ∈ w.turns files.entries, t.Succeeds := by
    constructor
    · intro hnil t ht
      by_contra hfails
      have hlisted : t.name ∈ (w.applyFiles files.entries).1.map Prod.fst :=
        mem_failures_iff.2 ⟨t, ht, rfl, hfails⟩
      simp [hnil] at hlisted
    · intro hall
      rw [List.eq_nil_iff_forall_not_mem]
      intro f hf
      obtain ⟨t, ht, -, hfails⟩ := mem_failures_iff.1 (List.mem_map_of_mem hf)
      exact hfails (hall t ht)
  rw [result_apply, ← hfailures]
  split <;> simp_all

end Workspace

end EditWaves
