import EditWaves.Disk.Basic
import EditWaves.Text.Blank

/-!
# What a script runs on

A machine holds the disk, the variables of the script, what has been printed, and a
clock.  A command leaves a machine behind and says how the script goes on.
-/

namespace EditWaves.Shell

/-- A machine while a script runs. -/
structure Machine where
  disk : Disk
  /-- The values of variables; an earlier entry hides later ones of its name. -/
  bindings : List (String × String)
  /-- The name of the script and its arguments. -/
  arguments : List String
  /-- How the last command ended. -/
  status : Nat
  /-- Whether a command that fails ends the script, unless something depends on it. -/
  strict : Bool
  /-- What the next command can read. -/
  input : List UInt8
  /-- What has been printed to which stream, the last first. -/
  printed : List (Nat × List UInt8)
  /-- Milliseconds since the start. -/
  clock : Nat
  /-- When the script is stopped. -/
  deadline : Nat

/-- How a script goes on after a command. -/
inductive Flow where
  | next
  | exit
  | killed (signal : Nat)
  /-- The time is up. -/
  | late
  | leaveLoop
  | nextRound
deriving Repr, BEq, DecidableEq, Inhabited

namespace Machine

/-- Prints bytes to a stream. -/
def print (m : Machine) (stream : Nat) (bytes : List UInt8) : Machine :=
  { m with printed := (stream, bytes) :: m.printed }

/-- Prints a text to a stream. -/
def say (m : Machine) (stream : Nat) (text : String) : Machine :=
  m.print stream (Text.Utf8.encode text)

/-- Everything that was printed to a stream. -/
def stream (m : Machine) (stream : Nat) : List UInt8 :=
  (m.printed.reverse.filter (·.1 = stream)).flatMap Prod.snd

/-- Ends a command with a status. -/
def done (m : Machine) (status : Nat) : Machine × Flow := ({ m with status }, .next)

/-- Ends a command with a complaint. -/
def complain (m : Machine) (text : String) (status : Nat) : Machine × Flow :=
  (m.say 2 (text ++ "\n")).done status

/-- The number of the process, as scripts see it. -/
def process : Nat := 4000

/-- The value of a variable. -/
def value (m : Machine) (name : String) : String :=
  match name with
  | "$" => toString process
  | "?" => toString m.status
  | "#" => toString (m.arguments.length - 1)
  | "@" | "*" => " ".intercalate m.arguments.tail
  | "PWD" => "/" ++ Disk.key m.disk.home
  | name =>
    match name.toNat? with
    | some n => m.arguments.getD n ""
    | none =>
      match m.bindings.find? (·.1 = name) with
      | some entry => entry.2
      | none => ""

/-- Sets a variable. -/
def assign (m : Machine) (name value : String) : Machine :=
  { m with bindings := (name, value) :: m.bindings.filter (·.1 ≠ name) }

/-- Lets time pass. -/
def wait (m : Machine) (ms : Nat) : Machine × Flow :=
  let m := { m with clock := m.clock + ms }
  if m.deadline ≤ m.clock then (m, .late) else m.done 0

end Machine

end EditWaves.Shell
