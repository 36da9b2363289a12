import EditWaves.Dict
import EditWaves.Disk.Path
import EditWaves.Text.Utf8

/-!
# A disk

A disk is a tree of directories and files with a working directory, from which
paths that are not absolute start.  `Disk.locate` walks along a path: every part
but the last has to lead to a directory.  `Disk.read?`, `Disk.write?` and the other
operations say why they are refused, in the words that the operating system uses.
-/

namespace EditWaves

/-- Why an operation on a disk is refused. -/
inductive DiskError where
  | notFound
  | denied
  | alreadyExists
  | notDirectory
  | isDirectory
  | nameTooLong
  /-- The path holds a null character. -/
  | nullCharacter
  /-- The file is not UTF-8. -/
  | notText
deriving Repr, BEq, DecidableEq, Inhabited

namespace DiskError

/-- The wording of a refusal without its number. -/
def reason : DiskError → String
  | notFound => "No such file or directory"
  | denied => "Permission denied"
  | alreadyExists => "File exists"
  | notDirectory => "Not a directory"
  | isDirectory => "Is a directory"
  | nameTooLong => "File name too long"
  | nullCharacter => "file name contained an unexpected NUL byte"
  | notText => "stream did not contain valid UTF-8"

/-- The number of a refusal by the operating system. -/
def number? : DiskError → Option Nat
  | notFound => some 2
  | denied => some 13
  | alreadyExists => some 17
  | notDirectory => some 20
  | isDirectory => some 21
  | nameTooLong => some 36
  | nullCharacter | notText => none

/-- The wording of a refusal. -/
def message (e : DiskError) : String :=
  match e.number? with
  | some n => s!"{e.reason} (os error {n})"
  | none => e.reason

end DiskError

namespace Disk

/-- What a path can lead to. -/
inductive Node where
  | directory
  | file (bytes : List UInt8)
  /-- A file that is always empty. -/
  | sink
deriving Repr, BEq, DecidableEq, Inhabited

/-- The names on the way to a node, the innermost first. -/
abbrev Location := List String

/-- The path of a location, without the leading slash. -/
def key (l : Location) : String := "/".intercalate l.reverse

/-- Where a path leads. -/
inductive Place where
  | found (l : Location) (node : Node)
  /-- The directory exists, but nothing of that name in it. -/
  | absent (l : Location)
deriving Repr, BEq, DecidableEq, Inhabited

/-- The longest name in bytes. -/
def maxName : Nat := 255

/-- The longest path in bytes. -/
def maxPath : Nat := 4095

end Disk

/-- A tree of directories and files. -/
structure Disk where
  /-- Everything below the root, by path. -/
  nodes : Dict Disk.Node
  /-- The working directory. -/
  home : Disk.Location

namespace Disk

/-- What stands at a location. -/
def node? (d : Disk) (l : Location) : Option Node :=
  if l = [] then some .directory else d.nodes.get? (key l)

/-- Puts something at a location. -/
def put (d : Disk) (l : Location) (node : Node) : Disk :=
  { d with nodes := d.nodes.insert (key l) node }

/-- Puts directories at a location and at all above it. -/
def putDirectories (d : Disk) : Location → Disk
  | [] => d
  | name :: parent => (d.putDirectories parent).put (name :: parent) .directory

/-- A disk with nothing in its working directory, and a file that is always empty
among the devices. -/
def empty (home : Location) : Disk :=
  let d : Disk := ⟨.empty, home⟩
  ((d.putDirectories home).putDirectories ["dev"]).put ["null", "dev"] .sink

/-- Walks along names from a location. -/
def walk (d : Disk) (l : Location) (node : Node) : List String → Except DiskError Place
  | [] => .ok (.found l node)
  | name :: rest =>
    match node with
    | .directory =>
      if name = "." then d.walk l node rest
      else if name = ".." then d.walk l.tail .directory rest
      else if maxName < name.utf8ByteSize then .error .nameTooLong
      else
        match d.node? (name :: l) with
        | some child => d.walk (name :: l) child rest
        | none => if rest = [] then .ok (.absent (name :: l)) else .error .notFound
    | .file _ | .sink => .error .notDirectory

/-- Where a path leads. -/
def locate (d : Disk) (path : String) : Except DiskError Place :=
  if path.toList.any (·.toNat = 0) then .error .nullCharacter
  else if path = "" then .error .notFound
  else if maxPath < path.utf8ByteSize then .error .nameTooLong
  else
    let start := if Path.isAbsolute path then [] else d.home
    match d.walk start .directory (Path.parts path) with
    | .ok (.found l .directory) => .ok (.found l .directory)
    | .ok (.found l node) =>
      if Path.endsInSlash path then .error .notDirectory else .ok (.found l node)
    | other => other

/-- Whether a path leads to something. -/
def exists? (d : Disk) (path : String) : Bool :=
  match d.locate path with
  | .ok (.found _ _) => true
  | _ => false

/-- The bytes of the file at a path. -/
def read? (d : Disk) (path : String) : Except DiskError (List UInt8) :=
  match d.locate path with
  | .ok (.found _ (.file bytes)) => .ok bytes
  | .ok (.found _ .sink) => .ok []
  | .ok (.found _ .directory) => .error .isDirectory
  | .ok (.absent _) => .error .notFound
  | .error e => .error e

/-- The text of the file at a path. -/
def readText? (d : Disk) (path : String) : Except DiskError String :=
  match d.read? path with
  | .ok bytes =>
    match Text.Utf8.decode? bytes with
    | some text => .ok text
    | none => .error .notText
  | .error e => .error e

/-- Makes the bytes of a file from what it held before; a file that does not exist is
created. -/
def change? (d : Disk) (path : String) (f : List UInt8 → List UInt8) : Except DiskError Disk :=
  match d.locate path with
  | .ok (.found l (.file bytes)) => .ok (d.put l (.file (f bytes)))
  | .ok (.found _ .sink) => .ok d
  | .ok (.found _ .directory) => .error .isDirectory
  | .ok (.absent l) =>
    if Path.endsInSlash path then .error .isDirectory else .ok (d.put l (.file (f [])))
  | .error e => .error e

/-- Writes a file. -/
def write? (d : Disk) (path : String) (bytes : List UInt8) : Except DiskError Disk :=
  d.change? path (fun _ => bytes)

/-- Writes at the end of a file. -/
def append? (d : Disk) (path : String) (bytes : List UInt8) : Except DiskError Disk :=
  d.change? path (· ++ bytes)

/-- Makes a directory. -/
def makeDirectory? (d : Disk) (path : String) : Except DiskError Disk :=
  match d.locate path with
  | .ok (.found _ _) => .error .alreadyExists
  | .ok (.absent l) => .ok (d.put l .directory)
  | .error e => .error e

/-- Removes a file. -/
def remove? (d : Disk) (path : String) : Except DiskError Disk :=
  match d.locate path with
  | .ok (.found _ .directory) => .error .isDirectory
  | .ok (.found l _) => .ok { d with nodes := d.nodes.erase (key l) }
  | .ok (.absent _) => .error .notFound
  | .error e => .error e

/-- Moves the working directory. -/
def enter? (d : Disk) (path : String) : Except DiskError Disk :=
  match d.locate path with
  | .ok (.found l .directory) => .ok { d with home := l }
  | .ok (.found _ _) => .error .notDirectory
  | .ok (.absent _) => .error .notFound
  | .error e => .error e

/-- Places a file below the working directory together with the directories on the
way to it. -/
def place (d : Disk) (path : String) (node : Node) : Disk :=
  let l := (Path.parts path).reverse ++ d.home
  (d.putDirectories l.tail).put l node

/-- The files below the working directory with their paths seen from there. -/
def files (d : Disk) : List (String × List UInt8) :=
  let start := (key d.home ++ "/").toList
  d.nodes.entries.filterMap (fun e =>
    match e.2 with
    | .file bytes =>
      if start.isPrefixOf e.1.toList then
        some (String.ofList (e.1.toList.drop start.length), bytes)
      else none
    | _ => none)

/-- What stands on a disk and did not stand there before, with the paths from the root;
directories come before what they hold. -/
def changes (before after : Disk) : List (String × Node) :=
  (after.nodes.entries.filter (fun e => before.nodes.get? e.1 ≠ some e.2)).map
    (fun e => ("/" ++ e.1, e.2))

/-- The paths of what stood on a disk before and does not stand there now. -/
def removals (before after : Disk) : List String :=
  (before.nodes.keys.filter (fun k => !after.nodes.contains k)).map ("/" ++ ·)

end Disk

end EditWaves
