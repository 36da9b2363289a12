import EditWaves.Shell.Echo

/-!
# Programs

The programs that commands can call besides the shell itself.  Each takes its
arguments and a machine, and complains in its own words.
-/

namespace EditWaves.Shell

/-! ## Conditions -/

/-- A condition on a path. -/
def pathCondition (d : Disk) (flag path : String) : Option Bool :=
  let place : Option Disk.Node := match d.locate path with
    | .ok (.found _ node) => some node
    | _ => none
  match flag with
  | "-e" | "-r" | "-w" => some place.isSome
  | "-f" => some (match place with
    | some (.file _) => true
    | _ => false)
  | "-d" | "-x" => some (place = some .directory)
  | "-s" => some (match place with
    | some (.file bytes) => !bytes.isEmpty
    | some .directory => true
    | _ => false)
  | "-z" => some (path = "")
  | "-n" => some (path ≠ "")
  | _ => none

/-- A condition on two texts or numbers. -/
def binaryCondition (a operator b : String) : Option Bool :=
  let numbers (p : Int → Int → Bool) : Option Bool := do
    let x ← a.toInt?
    let y ← b.toInt?
    some (p x y)
  match operator with
  | "=" | "==" => some (a = b)
  | "!=" => some (a ≠ b)
  | "-eq" => numbers (fun x y => x = y)
  | "-ne" => numbers (fun x y => x ≠ y)
  | "-lt" => numbers (fun x y => x < y)
  | "-le" => numbers (fun x y => x ≤ y)
  | "-gt" => numbers (fun x y => y < x)
  | "-ge" => numbers (fun x y => y ≤ x)
  | _ => none

/-- The value of a condition; `none` if it makes no sense. -/
def condition (d : Disk) : List String → Option Bool
  | [] => some false
  | [a] => some (a ≠ "")
  | ["!", a] => some (a = "")
  | [flag, a] => pathCondition d flag a
  | "!" :: rest => (condition d rest).map not
  | [a, operator, b] => binaryCondition a operator b
  | a :: operator :: b :: "-a" :: rest => do
    let x ← binaryCondition a operator b
    let y ← condition d rest
    some (x && y)
  | a :: operator :: b :: "-o" :: rest => do
    let x ← binaryCondition a operator b
    let y ← condition d rest
    some (x || y)
  | _ => none

/-- The argument that makes no sense in a condition. -/
def senseless : List String → String
  | [_, operator, _] => operator
  | arguments => arguments.headD ""

/-- Tests a condition. -/
def test (name : String) (arguments : List String) (m : Machine) : Machine × Flow :=
  match condition m.disk arguments with
  | some true => m.done 0
  | some false => m.done 1
  | none => m.complain s!"sh: 1: {name}: {senseless arguments}: unexpected operator" 2

/-! ## Files -/

/-- Prints one file. -/
def catFile (m : Machine) (path : String) : Machine :=
  if path = "-" then m.print 1 m.input
  else
    match m.disk.read? path with
    | .ok bytes => m.print 1 bytes
    | .error e => (m.complain s!"cat: {path}: {e.reason}" 1).1

/-- Prints files, or what can be read. -/
def cat (arguments : List String) (m : Machine) : Machine × Flow :=
  let paths := if arguments.isEmpty then ["-"] else arguments
  (paths.foldl catFile { m with status := 0 }, .next)

/-- Does something to each path and complains about those where it is refused. -/
def eachPath (complaint : String → String) (act : Disk → String → Except DiskError Disk)
    (paths : List String) (m : Machine) : Machine × Flow :=
  let step (m : Machine) (path : String) : Machine :=
    match act m.disk path with
    | .ok disk => { m with disk }
    | .error e => (m.complain (complaint path ++ ": " ++ e.reason) 1).1
  (paths.foldl step { m with status := 0 }, .next)

/-- Creates files that do not exist. -/
def touch (arguments : List String) (m : Machine) : Machine × Flow :=
  let act (d : Disk) (path : String) : Except DiskError Disk :=
    if d.exists? path then .ok d else d.write? path []
  eachPath (fun path => s!"touch: cannot touch '{path}'") act arguments m

/-- Removes files; with `-f` those that do not exist are no fault. -/
def rm (arguments : List String) (m : Machine) : Machine × Flow :=
  let force := arguments.contains "-f"
  let act (d : Disk) (path : String) : Except DiskError Disk :=
    match d.remove? path with
    | .error .notFound => if force then .ok d else .error .notFound
    | other => other
  eachPath (fun path => s!"rm: cannot remove '{path}'") act (arguments.filter (· ≠ "-f")) m

/-- Makes directories; with `-p` those that exist are no fault, and those on the way
are made too. -/
def mkdir (arguments : List String) (m : Machine) : Machine × Flow :=
  let act (d : Disk) (path : String) : Except DiskError Disk :=
    if arguments.contains "-p" then .ok (d.place path .directory) else d.makeDirectory? path
  eachPath (fun path => s!"mkdir: cannot create directory '{path}'") act
    (arguments.filter (· ≠ "-p")) m

/-- The name that a file gets at a destination. -/
def destination (d : Disk) (source target : String) : String :=
  match d.locate target with
  | .ok (.found _ .directory) => Path.join target ((Path.parts source).getLastD "")
  | _ => target

/-- Copies a file; with `move` the first one is removed. -/
def copy (name : String) (move : Bool) (arguments : List String) (m : Machine) : Machine × Flow :=
  match arguments.filter (· ≠ "-f") with
  | [source, target] =>
    let act (d : Disk) (path : String) : Except DiskError Disk := do
      let bytes ← d.read? path
      let d ← d.write? (destination d path target) bytes
      if move then d.remove? path else .ok d
    eachPath (fun path => s!"{name}: cannot stat '{path}'") act [source] m
  | _ => m.complain s!"{name}: missing file operand" 1

/-! ## Time and processes -/

/-- A number of seconds, which may have decimals, in milliseconds. -/
def milliseconds? (s : String) : Option Nat :=
  let digits (cs : List Char) : Option Nat :=
    if cs.all Char.isDigit then
      some (cs.foldl (fun n c => n * 10 + (c.toNat - '0'.toNat)) 0)
    else none
  let whole := s.toList.takeWhile (· ≠ '.')
  let fraction := ((s.toList.dropWhile (· ≠ '.')).drop 1).take 3
  do
    let n ← digits whole
    let f ← digits (fraction ++ List.replicate (3 - fraction.length) '0')
    if s = "" || s = "." then none else some (n * 1000 + f)

/-- Waits. -/
def sleep (arguments : List String) (m : Machine) : Machine × Flow :=
  match arguments.mapM milliseconds? with
  | some (t :: ts) => m.wait (ts.foldr (· + ·) t)
  | some [] => m.complain "sleep: missing operand" 1
  | none => m.complain ("sleep: invalid time interval '" ++ arguments.headD "" ++ "'") 1

/-- The signals that end a process, by their names. -/
def signals : List (String × Nat) :=
  [("HUP", 1), ("INT", 2), ("QUIT", 3), ("ILL", 4), ("TRAP", 5), ("ABRT", 6), ("BUS", 7),
    ("FPE", 8), ("KILL", 9), ("USR1", 10), ("SEGV", 11), ("USR2", 12), ("PIPE", 13),
    ("ALRM", 14), ("TERM", 15)]

/-- The number of a signal. -/
def signal? (name : String) : Option Nat :=
  match name.toNat? with
  | some n => some n
  | none =>
    let short := if name.toList.take 3 = ['S', 'I', 'G'] then String.ofList (name.toList.drop 3)
      else name
    (signals.find? (·.1 = short)).map Prod.snd

/-- Sends a signal to the script itself. -/
def kill (arguments : List String) (m : Machine) : Machine × Flow :=
  let (signal, targets) := match arguments with
    | "-s" :: name :: rest => (signal? name, rest)
    | first :: rest =>
      match first.toList with
      | '-' :: name => (signal? (String.ofList name), rest)
      | _ => (some 15, first :: rest)
    | [] => (some 15, [])
  match signal with
  | none => m.complain "sh: 1: kill: Illegal option" 2
  | some n =>
    if targets.contains (toString Machine.process) then
      if n = 0 then m.done 0 else (m, .killed n)
    else m.complain "sh: 1: kill: No such process" 1

/-! ## The table of programs -/

/-- A program that can be called. -/
abbrev Program := List String → Machine → Machine × Flow

/-- The last part of a path. -/
def basename (arguments : List String) (m : Machine) : Machine × Flow :=
  match arguments with
  | path :: _ => (m.say 1 ((Path.parts path).getLastD "/" ++ "\n")).done 0
  | [] => m.complain "basename: missing operand" 1

/-- The path of the working directory. -/
def pwd (m : Machine) : Machine × Flow := (m.say 1 ("/" ++ Disk.key m.disk.home ++ "\n")).done 0

/-- The programs that stand on their own. -/
def programs : List (String × Program) :=
  [("true", fun _ m => m.done 0),
    ("false", fun _ m => m.done 1),
    ("echo", echo),
    ("printf", printf),
    ("test", test "test"),
    ("[", fun arguments => test "[" arguments.dropLast),
    ("cat", cat),
    ("touch", touch),
    ("rm", rm),
    ("mkdir", mkdir),
    ("cp", copy "cp" false),
    ("mv", copy "mv" true),
    ("sleep", sleep),
    ("kill", kill),
    ("basename", basename),
    ("pwd", fun _ m => pwd m)]

/-- The program of a name. -/
def program? (name : String) : Option Program := (programs.find? (·.1 = name)).map Prod.snd

end EditWaves.Shell
