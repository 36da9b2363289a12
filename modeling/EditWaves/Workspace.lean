import EditWaves.Resolver
import EditWaves.Store

/-!
# Applying mutations to files

A workspace holds files and a resolver of mutators.  The mutations of one file are
applied in three steps: the file is read, the mutations that do not overlap are
applied to what was read, last to first, and the result is written.  A fault in
any step leaves the file as it was.

`Workspace.apply` does this for every file of a wave in ascending order of the
names, whatever happens to the others, and then reports the files that failed.
-/

namespace EditWaves

/-- Files, the names of the files that have been asked for, and a resolver. -/
structure Workspace (φ : Type) where
  files : φ
  /-- The names that have been asked for. -/
  opened : Dict Unit
  resolver : Resolver

/-- Applies mutations to the contents of a file one after another, up to the first
fault. -/
def mutateAll (r : Resolver) (file contents : String) : List Mutation → Dispatched
  | [] => ⟨.ok contents, r, []⟩
  | m :: rest =>
    let d := r.dispatch contents m
    match d.result with
    | .ok contents =>
      let e := mutateAll d.resolver file contents rest
      { e with log := d.log ++ .applied file m :: e.log }
    | .error _ => d

/-- What is noted about mutations that overlap others. -/
def dropNotes (ms : List Mutation) : Log := (Order.drops ms).map (fun d => .dropped d.1 d.2)

namespace Workspace

variable {φ : Type} [FileAccess φ]

/-- A workspace in which nothing has been done. -/
def new (files : φ) (resolver : Resolver) : Workspace φ := ⟨files, .empty, resolver⟩

/-- Reads a file, which is asked for by that. -/
def readContents (w : Workspace φ) (name : String) : Except FileError String × Workspace φ :=
  let (result, files) := FileAccess.read w.files name
  (result, { w with files, opened := w.opened.insert name () })

/-- Applies mutations to what was read. -/
def mutateContents (w : Workspace φ) (name contents : String) (ms : List Mutation) :
    Except FileError String × Workspace φ × Log :=
  let d := mutateAll w.resolver name contents (Mutation.sweep ms)
  (d.result.mapError .mutation, { w with resolver := d.resolver }, d.log)

/-- Writes a file. -/
def writeContents (w : Workspace φ) (name contents : String) :
    Except FileError String × Workspace φ :=
  let (result, files) := FileAccess.write w.files name contents
  (result.map (fun _ => contents), { w with files })

/-- Applies the mutations of one file: the contents that were written, or why not. -/
def applyFile (w : Workspace φ) (name : String) (ms : List Mutation) :
    Except FileError String × Workspace φ × Log :=
  let notes := dropNotes ms
  match w.readContents name with
  | (.error e, w) => (.error e, w, notes)
  | (.ok contents, w) =>
    match w.mutateContents name contents ms with
    | (.error e, w, log) => (.error e, w, notes ++ log)
    | (.ok contents, w, log) =>
      let (result, w) := w.writeContents name contents
      (result, w, notes ++ log)

/-- Applies the mutations of several files one after another, and lists the files
that failed. -/
def applyFiles (w : Workspace φ) :
    List (String × List Mutation) → List (String × FileError) × Workspace φ × Log
  | [] => ([], w, [])
  | (name, ms) :: rest =>
    let (result, w, log) := w.applyFile name ms
    let (failures, w, logs) := w.applyFiles rest
    match result with
    | .ok _ => (failures, w, log ++ logs)
    | .error e => ((name, e) :: failures, w, log ++ logs)

/-- Applies the mutations of a wave. -/
def apply (w : Workspace φ) (files : FileMutations) :
    Except ApplyError Unit × Workspace φ × Log :=
  let (failures, w, log) := w.applyFiles files.entries
  let reports := failures.map (fun f => Entry.failed f.1 f.2)
  let log := .applyBegin files :: log ++ .applyEnd files :: reports
  if failures.isEmpty then (.ok (), w, log) else (.error (.files failures), w, log)

end Workspace

end EditWaves
