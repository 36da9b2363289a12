import EditWaves.Failure
import EditWaves.Mutation.Basic

/-!
# The log of a run

Everything that a run reports is one list of entries in the order in which it
happened.  Entries are either events, which a listener is told, or notes, which
only the trace shows.  The statistics of a run and its trace are functions of the
list.
-/

namespace EditWaves

/-- One thing that happened. -/
inductive Entry where
  /-- A mutation was applied to a file. -/
  | applied (file : String) (m : Mutation)
  /-- A mutation was skipped because no mutator has its tag. -/
  | unknown (m : Mutation)
  | provideBegin
  | provideEnd (w : Wave)
  | waveBegin (w : Wave)
  | waveEnd (w : Wave)
  | applyBegin (files : FileMutations)
  | applyEnd (files : FileMutations)
  /-- The mutations of a file failed. -/
  | failed (file : String) (error : FileError)
  | runBegin
  | runEnd (results : Results)
  /-- Note: a mutation overlaps one that was kept. -/
  | dropped (m : Mutation) (keptStart : Nat)
  /-- Note: a tag was found for the first time. -/
  | resolved (tag : String)
  /-- Note: a wave had no mapping, but more waves are to be asked for. -/
  | belowMinimum (wave minimum : Nat)
  /-- Note: the run goes on although files failed. -/
  | continuing (error : ApplyError)

/-- Entries in the order in which they happened. -/
abbrev Log := List Entry

/-- Whether an entry is only shown by the trace. -/
def Entry.isNote : Entry → Bool
  | .dropped _ _ | .resolved _ | .belowMinimum _ _ | .continuing _ => true
  | _ => false

namespace Log

/-- What a listener is told. -/
def events (log : Log) : Log := log.filter (fun e => !e.isNote)

/-- What remains when nobody listens. -/
def notes (log : Log) : Log := log.filter Entry.isNote

end Log

/-! ## Statistics -/

/-- The counters of a run. -/
structure Stats where
  /-- How many mutations were applied to each file. -/
  byFile : Dict Nat
  waves : Nat
  unknown : Nat
  failedFiles : Nat

namespace Stats

/-- The counters before anything happened. -/
def zero : Stats := ⟨.empty, 0, 0, 0⟩

/-- The counters after one more entry. -/
def step (s : Stats) : Entry → Stats
  | .applied file _ => { s with byFile := s.byFile.alter file 0 (· + 1) }
  | .unknown _ => { s with unknown := s.unknown + 1 }
  | .waveBegin _ => { s with waves := s.waves + 1 }
  | .failed _ _ => { s with failedFiles := s.failedFiles + 1 }
  | _ => s

/-- The counters of a log. -/
def ofLog (log : Log) : Stats := log.foldl step zero

/-- How many mutations were applied. -/
def mutations (s : Stats) : Nat := s.byFile.values.foldr (· + ·) 0

/-- How many files were mutated. -/
def files (s : Stats) : Nat := s.byFile.size

/-- A number and the thing it counts. -/
def counted (n : Nat) (thing : String) : String :=
  if n = 1 then s!"{n} {thing}" else s!"{n} {thing}s"

/-- The line that ends a run. -/
def summary (s : Stats) : String :=
  "Completed " ++ counted s.mutations "mutation" ++ " across " ++ counted s.files "file" ++
    " in " ++ counted s.waves "wave" ++ "."

end Stats

/-! ## Trace -/

/-- How important a line of the trace is. -/
inductive Level where
  | debug
  | info
  | warn
deriving Repr, BEq, DecidableEq

/-- The name of a level. -/
def Level.name : Level → String
  | debug => "DEBUG"
  | info => "INFO"
  | warn => "WARN"

/-- A line of the trace. -/
structure TraceLine where
  level : Level
  message : String
  fields : List (String × Json)

/-- The text of a field of a line. -/
def fieldText (field : String × Json) : String :=
  match field.2 with
  | .string s => field.1 ++ "=" ++ Text.quoted s
  | v => field.1 ++ "=" ++ v.render

/-- A line of the trace as text. -/
def TraceLine.text (t : TraceLine) : String :=
  " ".intercalate ([t.level.name, t.message] ++ t.fields.map fieldText)

/-- The line of an entry, if it has one; `stats` are the counters at that time. -/
def Entry.traceLine? (stats : Stats) : Entry → Option TraceLine
  | .applied file m => some ⟨.debug, "Applied mutation",
      [("file", .string file), ("mutation_type", .string m.tag), ("begin", .nat m.start),
       ("end", .nat m.effectiveEnd)]⟩
  | .unknown m => some ⟨.warn, "Unknown mutator type: '" ++ m.tag ++ "'", []⟩
  | .provideEnd w =>
    match w.files with
    | some files => some ⟨.debug, "Received mutations wave",
        [("files", .nat files.size), ("mutations", .nat files.count)]⟩
    | none => some ⟨.debug, "Received wave without file mutations", []⟩
  | .failed file error => some ⟨.warn, "Failed to apply mutations: " ++ error.message,
      [("file", .string file)]⟩
  | .runEnd _ => some ⟨.info, stats.summary, []⟩
  | .dropped m keptStart => some ⟨.debug, "Dropping overlapping mutation",
      [("mutation_type", .string m.tag), ("begin", .nat m.start), ("end", .nat m.effectiveEnd),
       ("kept_begin", .nat keptStart)]⟩
  | .resolved tag => some ⟨.debug, "Resolved mutator", [("mutation_type", .string tag)]⟩
  | .belowMinimum wave minimum => some ⟨.debug, "Empty wave below minimum",
      [("wave", .nat wave), ("minimum", .nat minimum)]⟩
  | .continuing error =>
    some ⟨.info, "Continuing after failed files: " ++ error.message, []⟩
  | _ => none

/-- The trace of a log that starts with the given counters. -/
def Log.traceFrom (stats : Stats) : Log → List TraceLine
  | [] => []
  | e :: rest => (e.traceLine? stats).toList ++ Log.traceFrom (stats.step e) rest

/-- The trace of a log. -/
def Log.trace (log : Log) : List TraceLine := log.traceFrom .zero

end EditWaves
