import EditWaves.Disk.Basic
import EditWaves.Store

/-!
# Files on a disk

The files of a run on a disk.  A name is seen from a root directory if there is
one, and from the working directory otherwise; failures show the whole path.
-/

namespace EditWaves

/-- The files of a disk as seen from a root directory. -/
structure DiskFiles where
  disk : Disk
  root : Option String

namespace DiskFiles

/-- The path of a name. -/
def path (f : DiskFiles) (name : String) : String :=
  match f.root with
  | some root => Path.join root name
  | none => name

/-- Reads a file. -/
def read (f : DiskFiles) (name : String) : Except FileError String × DiskFiles :=
  match f.disk.readText? (f.path name) with
  | .ok text => (.ok text, f)
  | .error e => (.error (.read (f.path name) e.message), f)

/-- Writes a file. -/
def write (f : DiskFiles) (name contents : String) : Except FileError Unit × DiskFiles :=
  match f.disk.write? (f.path name) (Text.Utf8.encode contents) with
  | .ok disk => (.ok (), { f with disk })
  | .error e => (.error (.write (f.path name) e.message), f)

instance : FileAccess DiskFiles := ⟨read, write⟩

end DiskFiles

end EditWaves
