import EditWaves.Failure
import EditWaves.Dict

/-!
# Files

`FileAccess` is what applying mutations needs of a place that holds files: reading
and writing by name, both of which can fail.  A `Store` holds files in memory; each
of its files can refuse chosen reads and writes, counted from zero.
-/

namespace EditWaves

/-- Reading and writing files by name. -/
class FileAccess (φ : Type) where
  read : φ → String → Except FileError String × φ
  write : φ → String → String → Except FileError Unit × φ

/-- A file in memory. -/
structure StoredFile where
  contents : String
  /-- Whether the read with a number is refused. -/
  refusesRead : Nat → Bool
  /-- Whether the write with a number is refused. -/
  refusesWrite : Nat → Bool
  /-- How often the file has been read. -/
  reads : Nat
  /-- How often the file has been written. -/
  writes : Nat
deriving Inhabited

/-- A file in memory that has not been touched and refuses the given reads and
writes. -/
def StoredFile.new (contents : String) (failingReads failingWrites : List Nat) : StoredFile :=
  ⟨contents, failingReads.contains, failingWrites.contains, 0, 0⟩

/-- Files in memory by name. -/
structure Store where
  files : Dict StoredFile

namespace Store

/-- Reads a file. -/
def read (s : Store) (name : String) : Except FileError String × Store :=
  match s.files.get? name with
  | none => (.error (.other "no such file"), s)
  | some f =>
    let s' : Store := ⟨s.files.insert name { f with reads := f.reads + 1 }⟩
    if f.refusesRead f.reads then (.error (.other "read rejected"), s')
    else (.ok f.contents, s')

/-- Writes a file. -/
def write (s : Store) (name contents : String) : Except FileError Unit × Store :=
  match s.files.get? name with
  | none => (.error (.other "write rejected"), s)
  | some f =>
    let touched := { f with writes := f.writes + 1 }
    if f.refusesWrite f.writes then
      (.error (.other "write rejected"), ⟨s.files.insert name touched⟩)
    else (.ok (), ⟨s.files.insert name { touched with contents }⟩)

/-- The contents of every file. -/
def contents (s : Store) : Dict String := s.files.map StoredFile.contents

instance : FileAccess Store := ⟨read, write⟩

end Store

end EditWaves
