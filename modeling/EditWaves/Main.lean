import EditWaves.Program

/-!
# The program on a real disk

The working directory and the absolute paths among the arguments are read into a
`Disk`, the program runs on it, and what it changed is written back.
-/

namespace EditWaves

/-- Reads a directory entry and everything below it. -/
partial def loadEntry (d : Disk) (l : Disk.Location) (e : IO.FS.DirEntry) : IO Disk := do
  if ← e.path.isDir then
    let mut d := d.putDirectories l
    for child in ← e.path.readDir do
      d ← loadEntry d (child.fileName :: l) child
    return d
  else if ← e.path.pathExists then
    return d.put l (.file (← IO.FS.readBinFile e.path).toList)
  else
    return d

/-- Reads what an absolute path leads to. -/
def loadPath (d : Disk) (path : String) : IO Disk :=
  loadEntry d (Path.parts path).reverse { root := "/", fileName := "/".intercalate (Path.parts path) }

/-- Reads the disk that the program works on. -/
def loadDisk (arguments : List String) : IO Disk := do
  let home := toString (← IO.currentDir)
  (home :: arguments.filter Path.isAbsolute).foldlM loadPath (.empty (Path.parts home).reverse)

/-- Writes back what has changed. -/
def storeDisk (before after : Disk) : IO Unit := do
  for (path, node) in before.changes after do
    match node with
    | .directory => IO.FS.createDirAll path
    | .file bytes => IO.FS.writeBinFile path ⟨bytes.toArray⟩
    | .sink => pure ()
  for path in before.removals after do
    IO.FS.removeFile path

/-- The rounds that a run may take. -/
def rounds : Nat := 1 <<< 62

end EditWaves

open EditWaves

/-- Runs the program. -/
def main (arguments : List String) : IO UInt32 := do
  let disk ← loadDisk arguments
  match Program.run rounds arguments disk with
  | none => return 1
  | some r =>
    storeDisk disk r.disk
    for line in r.log do
      IO.eprintln line.text
    IO.print r.output
    match r.failure with
    | none => pure ()
    | some (.usage stop) => IO.eprintln ("error: " ++ stop.message)
    | some (.failed message) => IO.eprintln ("Error: " ++ message)
    return r.exitCode.toUInt32
