import EditWaves.Shell.Arith
import EditWaves.Shell.Parser
import EditWaves.Shell.Program

/-!
# Running scripts

Words are expanded into fields, redirections are opened, and commands change a
machine.  Every step uses up fuel, so that a script which never ends is stopped
like one whose time is up.
-/

namespace EditWaves.Shell

/-- A step of a script: it changes the machine and may keep the script from going on. -/
abbrev Act := ExceptT Flow (StateM Machine)

namespace Act

/-- A step that a program takes. -/
def call (f : Machine → Machine × Flow) : Act Unit := fun m =>
  match f m with
  | (m, .next) => (.ok (), m)
  | (m, flow) => (.error flow, m)

/-- Ends a command with a status. -/
def done (status : Nat) : Act Unit := call (·.done status)

/-- Runs a step whose failure does not end the script, because something depends on it. -/
def tested (act : Act Unit) : Act Unit := fun m =>
  let (result, after) := act { m with strict := false }
  (result, { after with strict := m.strict })

/-- Ends the script if the last command failed and that is what failures do. -/
def failHard : Act Unit := do
  let m ← get
  if m.strict && m.status ≠ 0 then throw .exit

/-- Runs a step on a copy of the variables and the working directory.  The end of the
copy is not the end of the script. -/
def subshell (act : Act Unit) : Act Unit := fun m =>
  let (result, after) := act m
  let back : Machine := { after with
    bindings := m.bindings
    arguments := m.arguments
    strict := m.strict
    disk := { after.disk with home := m.disk.home } }
  match result with
  | .error (.killed n) => (.error (.killed n), back)
  | .error .late => (.error .late, back)
  | _ => (.ok (), back)

/-- Runs a step and takes what it printed to the standard output. -/
def capture (act : Act Unit) : Act (List UInt8) := fun m =>
  let (result, after) := subshell act { m with printed := [] }
  let bytes := after.stream 1
  let back := { after with printed := after.printed.filter (·.1 ≠ 1) ++ m.printed }
  match result with
  | .ok () => (.ok bytes, back)
  | .error flow => (.error flow, back)

end Act

/-! ## Fields -/

/-- The fields of a command that are complete, and the one that is being built. -/
structure Fields where
  complete : List String
  building : Option String

namespace Fields

/-- Adds text to the field that is being built. -/
def add (f : Fields) (text : String) : Fields :=
  { f with building := some (f.building.getD "" ++ text) }

/-- Completes the field that is being built. -/
def close (f : Fields) : Fields := ⟨f.complete ++ f.building.toList, none⟩

/-- Adds text and splits it at blanks. -/
def addSplit (f : Fields) (text : String) : Fields :=
  text.toList.foldl (fun f c =>
    if c = ' ' || c = '\t' || c = '\n' then f.close else f.add c.toString) f

/-- Adds the value of a piece. -/
def addPiece (f : Fields) (quoted : Bool) (text : String) : Fields :=
  if quoted then f.add text else f.addSplit text

end Fields

/-- The text of captured bytes without the line ends at its end. -/
def capturedText (bytes : List UInt8) : String :=
  Text.Utf8.decodeLossy (bytes.reverse.dropWhile (· = 10)).reverse

/-- The value of a variable as a number. -/
def numberValue (m : Machine) (name : String) : Int := (m.value name).toInt?.getD 0

/-- An arithmetic expression with variables after dollar signs replaced. -/
def replaceDollars (m : Machine) : List Char → List Char
  | [] => []
  | '$' :: c :: rest =>
    if c.isDigit || c = '?' || c = '#' || c = '$' then
      (m.value c.toString).toList ++ replaceDollars m rest
    else replaceDollars m (c :: rest)
  | c :: rest => c :: replaceDollars m rest

/-! ## Redirections -/

/-- Where a stream goes. -/
inductive Target where
  | stream (n : Nat)
  | file (path : String)

/-- Where streams go; a stream that is not listed goes where it went before. -/
abbrev Routes := List (Nat × Target)

/-- Where a stream goes. -/
def Routes.target (routes : Routes) (stream : Nat) : Target :=
  match List.find? (fun r => r.1 = stream) routes with
  | some r => r.2
  | none => .stream stream

/-- The path of something from the root. -/
def absolutePath (d : Disk) (path : String) : String :=
  match d.locate path with
  | .ok (.found l _) | .ok (.absent l) => "/" ++ Disk.key l
  | .error _ => path

/-- The stream that a path stands for. -/
def device? (path : String) : Option Nat :=
  match path with
  | "/dev/stdout" => some 1
  | "/dev/stderr" => some 2
  | _ => none

/-- Opens a file of a redirection. -/
def openTarget (r : Redirect) (path : String) (routes : Routes) (m : Machine) :
    Option (Routes × Machine) :=
  let opened (change : Except DiskError Disk) : Option (Routes × Machine) :=
    match device? path, change with
    | some stream, _ => some ((r.stream, routes.target stream) :: routes, m)
    | none, .ok disk =>
      some ((r.stream, .file (absolutePath disk path)) :: routes, { m with disk })
    | none, .error _ => none
  match r.direction with
  | .into => opened (m.disk.write? path [])
  | .append => opened (m.disk.append? path [])
  | .source =>
    match m.disk.read? path with
    | .ok bytes => some (routes, { m with input := bytes })
    | .error _ => none
  | .duplicate => (path.toNat?).map (fun n => ((r.stream, routes.target n) :: routes, m))

/-- Passes on what was printed. -/
def deliver (routes : Routes) (m : Machine) (chunk : Nat × List UInt8) : Machine :=
  match routes.target chunk.1 with
  | .stream n => m.print n chunk.2
  | .file path =>
    match m.disk.append? path chunk.2 with
    | .ok disk => { m with disk }
    | .error _ => m

/-- Runs a step with its streams going elsewhere. -/
def Act.redirected (routes : Routes) (input : List UInt8) (act : Act Unit) : Act Unit := fun m =>
  let (result, after) := act { m with printed := [] }
  let back := { after with printed := m.printed, input }
  (result, after.printed.reverse.foldl (deliver routes) back)

/-! ## Commands -/

/-- The programs that are called by a path. -/
def pathProgram? (path : String) : Option Program :=
  match Path.parts path with
  | ["bin", name] | ["usr", "bin", name] => if Path.isAbsolute path then program? name else none
  | _ => none

/-- Calls a program by its name or path. -/
def callProgram (name : String) (arguments : List String) : Act Unit := do
  match if name.toList.contains '/' then pathProgram? name else program? name with
  | some p => Act.call (p arguments)
  | none =>
    let m ← get
    if name.toList.contains '/' && m.disk.exists? name then
      Act.call (·.complain s!"sh: 1: {name}: Permission denied" 126)
    else Act.call (·.complain s!"sh: 1: {name}: not found" 127)

/-- Ends the script with a status. -/
def exitWith (arguments : List String) : Act Unit := do
  match arguments with
  | [] => throw .exit
  | a :: _ =>
    match a.toNat? with
    | some n =>
      Act.done (n % 256)
      throw .exit
    | none =>
      Act.call (·.complain s!"sh: 1: exit: Illegal number: {a}" 2)
      throw .exit

/-- Moves the working directory of a script. -/
def changeDirectory (path : String) : Act Unit := do
  let m ← get
  match m.disk.enter? path with
  | .ok disk =>
    set { m with disk }
    Act.done 0
  | .error _ => Act.call (·.complain s!"sh: 1: cd: can't cd to {path}" 2)

/-- Makes the assignments among the arguments of `export`. -/
def exportAll (arguments : List String) (m : Machine) : Machine :=
  let step (m : Machine) (argument : String) : Machine :=
    match argument.toList.dropWhile (· ≠ '=') with
    | '=' :: value =>
      m.assign (String.ofList (argument.toList.takeWhile (· ≠ '='))) (String.ofList value)
    | _ => m
  arguments.foldl step m

/-- Turns options of the shell on or off. -/
def setOptions (m : Machine) (argument : String) : Machine :=
  match argument.toList with
  | '-' :: flags => if flags.contains 'e' then { m with strict := true } else m
  | '+' :: flags => if flags.contains 'e' then { m with strict := false } else m
  | _ => m

/-- Whether an argument of the shell is a group of options. -/
def isOptions (argument : String) : Bool :=
  match argument.toList with
  | '-' :: c :: rest => (c :: rest).all Char.isAlpha
  | _ => false

/-- Whether a word runs a script in its expansion. -/
def substitutes (w : Word) : Bool :=
  w.any (fun
    | .output _ _ => true
    | _ => false)

mutual

/-- The value of a piece, and whether it is quoted. -/
def pieceValue (fuel : Nat) (p : Piece) : Act (Bool × String) :=
  match fuel with
  | 0 => throw .late
  | fuel + 1 => do
    let m ← get
    match p with
    | .text s quoted => return (quoted, s)
    | .variable name fallback quoted =>
      let value := m.value name
      return (quoted, if value = "" then fallback else value)
    | .output script quoted =>
      let bytes ← Act.capture (runScript fuel script)
      return (quoted, capturedText bytes)
    | .arithmetic expression quoted =>
      let text := String.ofList (replaceDollars m expression.toList)
      match Arith.eval (numberValue m) text with
      | some n => return (quoted, toString n)
      | none =>
        Act.call (·.complain "sh: 1: arithmetic expression: expecting primary" 2)
        throw .exit

/-- The value of a word that is not split. -/
def wordValue (fuel : Nat) (text : String) (w : Word) : Act String :=
  match fuel, w with
  | 0, _ => throw .late
  | _, [] => return text
  | fuel + 1, p :: rest => do
    let (_, value) ← pieceValue fuel p
    wordValue fuel (text ++ value) rest

/-- Adds the fields of a word. -/
def wordFields (fuel : Nat) (f : Fields) (w : Word) : Act Fields :=
  match fuel, w with
  | 0, _ => throw .late
  | _, [] => return f.close
  | fuel + 1, p :: rest => do
    match p with
    | .text s _ => wordFields fuel (f.add s) rest
    | p =>
      let (quoted, value) ← pieceValue fuel p
      wordFields fuel (f.addPiece quoted value) rest

/-- The fields of several words. -/
def fieldsOf (fuel : Nat) (f : Fields) (words : List Word) : Act (List String) :=
  match fuel, words with
  | 0, _ => throw .late
  | _, [] => return f.complete
  | fuel + 1, w :: rest => do fieldsOf fuel (← wordFields fuel f w) rest

/-- Makes assignments. -/
def assignAll (fuel : Nat) (assignments : List (String × Word)) : Act Unit :=
  match fuel, assignments with
  | 0, _ => throw .late
  | _, [] => return ()
  | fuel + 1, (name, w) :: rest => do
    let value ← wordValue fuel "" w
    modify (·.assign name value)
    assignAll fuel rest

/-- Opens redirections one after another; `none` if one of them is refused. -/
def openAll (fuel : Nat) (routes : Routes) (redirects : List Redirect) : Act (Option Routes) :=
  match fuel, redirects with
  | 0, _ => throw .late
  | _, [] => return some routes
  | fuel + 1, r :: rest => do
    let path ← wordValue fuel "" r.target
    match openTarget r path routes (← get) with
    | some (routes, m) =>
      set m
      openAll fuel routes rest
    | none =>
      let reason := if r.direction = .source then s!"cannot open {path}: No such file"
        else s!"cannot create {path}: Directory nonexistent"
      Act.call (·.complain ("sh: 1: " ++ reason) 2)
      return none

/-- Runs a command with redirections. -/
def withRedirects (fuel : Nat) (redirects : List Redirect) (act : Act Unit) : Act Unit :=
  match fuel with
  | 0 => throw .late
  | fuel + 1 => do
    let input := (← get).input
    match ← openAll fuel [] redirects with
    | some routes => Act.redirected routes input act
    | none => return ()

/-- Runs a command by its fields. -/
def runFields (fuel : Nat) (fields : List String) : Act Unit :=
  match fuel, fields with
  | 0, _ => throw .late
  | _, [] => return ()
  | fuel + 1, name :: arguments =>
    match name with
    | ":" | "wait" => Act.done 0
    | "export" => Act.call (fun m => (exportAll arguments m).done 0)
    | "unset" => Act.call (fun m => (arguments.foldl (fun m name => m.assign name "") m).done 0)
    | "set" => Act.call (fun m => (arguments.foldl setOptions m).done 0)
    | "exit" => exitWith arguments
    | "cd" => changeDirectory (arguments.headD "/")
    | "echo" => Act.call (shellEcho arguments)
    | "break" => throw .leaveLoop
    | "continue" => throw .nextRound
    | "eval" => runScript fuel (" ".intercalate arguments)
    | "exec" => do
      if arguments.isEmpty then Act.done 0
      else
        runFields fuel arguments
        throw .exit
    | "sh" | "/bin/sh" => runShell fuel arguments
    | name => callProgram name arguments

/-- Runs the shell inside a script: as a process of its own, which has other variables
and dies alone. -/
def runShell (fuel : Nat) (arguments : List String) : Act Unit :=
  match fuel with
  | 0 => throw .late
  | fuel + 1 => fun m =>
    match Act.subshell (shellMain fuel arguments) { m with bindings := [], strict := false } with
    | (.error (.killed n), after) =>
      (.ok (), { after with bindings := m.bindings, status := 128 + n })
    | (result, after) => (result, { after with bindings := m.bindings })

/-- What the shell does with its arguments. -/
def shellMain (fuel : Nat) (arguments : List String) : Act Unit :=
  match fuel with
  | 0 => throw .late
  | fuel + 1 => do
    match arguments with
    | "-c" :: script :: rest =>
      modify (fun m => { m with arguments := if rest.isEmpty then ["sh"] else rest })
      runScript fuel script
    | ["-c"] => Act.call (·.complain "sh: 0: -c requires an argument" 2)
    | [] => runScript fuel (Text.Utf8.decodeLossy (← get).input)
    | path :: rest =>
      if isOptions path then
        modify (fun m => setOptions m path)
        shellMain fuel (if path.toList.contains 'c' then "-c" :: rest else rest)
      else
        match (← get).disk.read? path with
        | .ok bytes =>
          modify (fun m => { m with arguments := path :: rest })
          runScript fuel (Text.Utf8.decodeLossy bytes)
        | .error _ => Act.call (·.complain s!"sh: 0: cannot open {path}: No such file" 2)

/-- Runs a script. -/
def runScript (fuel : Nat) (script : String) : Act Unit :=
  match fuel with
  | 0 => throw .late
  | fuel + 1 => do
    match parse? script with
    | some c =>
      Act.done (← get).status
      run fuel c
    | none =>
      Act.call (·.complain "sh: 1: Syntax error" 2)
      throw .exit

/-- Runs the rounds of a loop over words. -/
def runEach (fuel : Nat) (name : String) (words : List String) (body : Command) : Act Unit :=
  match fuel, words with
  | 0, _ => throw .late
  | _, [] => return ()
  | fuel + 1, w :: rest => do
    modify (·.assign name w)
    if ← runBody fuel body then runEach fuel name rest body else return ()

/-- Runs the body of a loop; whether there may be another round. -/
def runBody (fuel : Nat) (body : Command) : Act Bool :=
  match fuel with
  | 0 => throw .late
  | fuel + 1 => fun m =>
    match run fuel body m with
    | (.ok (), m) => (.ok true, m)
    | (.error .nextRound, m) => (.ok true, m)
    | (.error .leaveLoop, m) => (.ok false, m)
    | (.error flow, m) => (.error flow, m)

/-- Runs a command. -/
def run (fuel : Nat) (c : Command) : Act Unit :=
  match fuel with
  | 0 => throw .late
  | fuel + 1 => do
    match c with
    | .skip => return ()
    | .simple assignments words redirects =>
      let fields ← fieldsOf fuel ⟨[], none⟩ words
      if fields.isEmpty then
        assignAll fuel assignments
        if !assignments.any (fun a => substitutes a.2) then Act.done 0
        withRedirects fuel redirects (return ())
      else
        let bindings := (← get).bindings
        assignAll fuel assignments
        withRedirects fuel redirects (runFields fuel fields)
        if !assignments.isEmpty then modify (fun m => { m with bindings })
      Act.failHard
    | .sequence first second =>
      run fuel first
      run fuel second
    | .both first second =>
      Act.tested (run fuel first)
      if (← get).status = 0 then run fuel second
    | .either first second =>
      Act.tested (run fuel first)
      if (← get).status ≠ 0 then run fuel second
    | .negated c =>
      Act.tested (run fuel c)
      Act.done (if (← get).status = 0 then 1 else 0)
    | .pipe left right =>
      let bytes ← Act.capture (run fuel left)
      modify (fun m => { m with input := bytes })
      Act.subshell (run fuel right)
      Act.failHard
    | .branch condition yes no =>
      Act.tested (run fuel condition)
      let holds := (← get).status = 0
      Act.done 0
      if holds then run fuel yes else run fuel no
    | .loop success condition body =>
      Act.tested (run fuel condition)
      let holds := (← get).status = 0
      Act.done 0
      if holds = success then
        if ← runBody fuel body then run fuel (.loop success condition body)
    | .each name words body =>
      let fields ← fieldsOf fuel ⟨[], none⟩ words
      Act.done 0
      runEach fuel name fields body
    | .group body redirects => withRedirects fuel redirects (run fuel body)
    | .subshell body redirects =>
      withRedirects fuel redirects (Act.subshell (run fuel body))
      Act.failHard

end

/-! ## Processes -/

/-- How a process ended. -/
inductive Ending where
  | exited (code : Nat)
  | signalled (signal : Nat)
  | timedOut
deriving Repr, BEq, DecidableEq, Inhabited

/-- A process that has ended, and the disk it left. -/
structure Ended where
  ending : Ending
  output : List UInt8
  errors : List UInt8
  disk : Disk

/-- Why a process cannot be started. -/
inductive SpawnError where
  | nullCharacter
  | refused (reason : DiskError)
deriving Repr, BEq, DecidableEq, Inhabited

/-- The wording of a refusal. -/
def SpawnError.message : SpawnError → String
  | nullCharacter => "nul byte found in provided data"
  | refused reason => reason.message

/-- What a program does when it is started by its name or path. -/
def entry? (d : Disk) (fuel : Nat) (name : String) (arguments : List String) :
    Except SpawnError (Act Unit) :=
  if name.toList.contains '/' then
    if name = "/bin/sh" || name = "/usr/bin/sh" then .ok (shellMain fuel arguments)
    else
      match pathProgram? name with
      | some p => .ok (Act.call (p arguments))
      | none =>
        match d.locate name with
        | .ok (.found _ _) => .error (.refused .denied)
        | .ok (.absent _) => .error (.refused .notFound)
        | .error e => .error (.refused e)
  else if name = "sh" then .ok (shellMain fuel arguments)
  else
    match program? name with
    | some p => .ok (Act.call (p arguments))
    | none => .error (.refused (if name = "." || name = ".." then .denied else .notFound))

/-- The disk as a process sees it that is started in a directory. -/
def enterDirectory (d : Disk) : Option String → Except SpawnError Disk
  | none => .ok d
  | some directory => (d.enter? directory).mapError .refused

/-- The steps that a script may take. -/
def stepLimit : Nat := 100000

/-- Starts a process and waits for it, but not longer than `deadline` milliseconds. -/
def spawn (d : Disk) (directory : Option String) (name : String) (arguments : List String)
    (deadline : Nat) : Except SpawnError Ended := do
  if (directory.toList ++ name :: arguments).any (fun s => s.toList.any (·.toNat = 0)) then
    .error .nullCharacter
  else
    let inside ← enterDirectory d directory
    let act ← entry? inside stepLimit name arguments
    let start : Machine := ⟨inside, [], [name], 0, false, [], [], 0, deadline⟩
    let (result, m) := act start
    let ending : Ending := match result with
      | .error (.killed n) => .signalled n
      | .error .late => .timedOut
      | _ => if deadline = 0 then .timedOut else .exited m.status
    .ok ⟨ending, m.stream 1, m.stream 2, { m.disk with home := d.home }⟩

end EditWaves.Shell
