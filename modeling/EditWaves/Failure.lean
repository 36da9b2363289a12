import EditWaves.Mutation.Error

/-!
# Failures

What can go wrong with a file, with the files of a wave, with a source of waves
and with a run.  A failure of a source is a chain of causes, the outermost first.
-/

namespace EditWaves

/-- Why the mutations of one file were not applied. -/
inductive FileError where
  /-- A file on disk could not be read. -/
  | read (path reason : String)
  /-- A file on disk could not be written. -/
  | write (path reason : String)
  /-- Another kind of storage refused. -/
  | other (reason : String)
  | mutation (fault : MutationError)
deriving Repr, BEq, DecidableEq, Inhabited

namespace FileError

/-- The wording of a failure. -/
def message : FileError → String
  | read path reason => "Failed to read " ++ Text.quoted path ++ ": " ++ reason
  | write path reason => "Failed to write " ++ Text.quoted path ++ ": " ++ reason
  | other reason => reason
  | mutation fault => "Mutation failed: " ++ fault.message

/-- The name of the kind of failure. -/
def kind : FileError → String
  | read _ _ => "FileProvider.Read"
  | write _ _ => "FileProvider.Write"
  | other _ => "FileProvider.Other"
  | mutation fault => "Mutation." ++ fault.kind

end FileError

/-- Why the mutations of a wave were not all applied. -/
inductive ApplyError where
  /-- Some files failed, in ascending order of their names; all others were mutated. -/
  | files (failures : List (String × FileError))
  /-- The wave was not applied at all. -/
  | other (reason : String)
deriving Repr, BEq, DecidableEq, Inhabited

namespace ApplyError

/-- The names of the files that failed. -/
def fileNames : ApplyError → List String
  | files failures => failures.map Prod.fst
  | other _ => []

/-- The wording of a failure. -/
def message : ApplyError → String
  | files failures =>
    let described := failures.map (fun f => f.1 ++ " (" ++ f.2.message ++ ")")
    s!"Failed to apply mutations to {failures.length} file(s): " ++ ", ".intercalate described
  | other reason => reason

end ApplyError

/-- One cause of a failure. -/
inductive Cause where
  | message (text : String)
  | json (fault : DecodeError)
deriving Repr, BEq, DecidableEq, Inhabited

/-- The wording of a cause. -/
def Cause.text : Cause → String
  | message text => text
  | json fault => fault.message

/-- Causes of a failure, the outermost first. -/
abbrev Chain := List Cause

namespace Chain

/-- A failure with one cause. -/
def single (text : String) : Chain := [.message text]

/-- All causes in one line. -/
def text (chain : Chain) : String := ": ".intercalate (chain.map Cause.text)

end Chain

/-- What a run has done: the names of the files that were mutated and of those that
failed, each ascending and without repetition. -/
structure Results where
  mutated : List String
  failed : List String
deriving Repr, BEq, DecidableEq, Inhabited

/-- Why a run stopped early. -/
inductive RunError where
  /-- The source of waves failed. -/
  | provider (chain : Chain)
  /-- Files failed and the run was to stop then. -/
  | aborted (source : ApplyError) (results : Results)
  /-- A wave could not be applied at all. -/
  | apply (source : ApplyError)
deriving Repr, BEq, DecidableEq, Inhabited

/-- The wording of a failure. -/
def RunError.message : RunError → String
  | provider chain => "Mutations provider failed: " ++ chain.text
  | aborted source _ => "Run aborted: " ++ source.message
  | apply source => source.message

end EditWaves
