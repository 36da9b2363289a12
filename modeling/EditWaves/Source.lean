import EditWaves.Disk.Basic
import EditWaves.Mutation.Document
import EditWaves.Run
import EditWaves.Workspace

/-!
# Sources of waves

Providers of waves that are known beforehand: a queue that is replayed and then
runs dry, one wave for ever, and wrappers that count the calls and fail at a
chosen one.  A queue can be read from a text or a file.
-/

namespace EditWaves

namespace Source

/-- Hands out waves in order, then says that no mutations remain. -/
def queue : Provider (List Wave) where
  provide
    | [] => (.ok .dry, [])
    | w :: rest => (.ok w, rest)

/-- Hands out one wave for ever. -/
def forever {π : Type} (w : Wave) : Provider π where
  provide s := (.ok w, s)

/-- A provider with the number of times it has been asked. -/
def counting {π : Type} (p : Provider π) : Provider (Nat × π) where
  provide s :=
    let (result, inner) := p.provide s.2
    (result, s.1 + 1, inner)

/-- A counted provider that fails at one call. -/
def failingAt {π : Type} (call : Option Nat) (p : Provider π) : Provider (Nat × π) where
  provide s :=
    if call = some s.1 then
      (.error [.message s!"call {s.1}", .message "linter crashed"], s.1 + 1, s.2)
    else (counting p).provide s

/-- A counted applier that fails at one call. -/
def offlineAt {α : Type} (call : Option Nat) (a : Applier α) : Applier (Nat × α) where
  apply s files :=
    if call = some s.1 then (.error (.other "applier offline"), (s.1 + 1, s.2), [])
    else
      let (result, inner, log) := a.apply s.2 files
      (result, (s.1 + 1, inner), log)

/-- What the text of a list of waves is reported as. -/
def wavesCause : Cause := .message "Failed to parse mutations waves JSON"

/-- Reads a queue of waves from a JSON text. -/
def parseWaves (text : String) : Except Chain (List Wave) :=
  (readText Wave.listOfDocument text).mapError (fun fault => [wavesCause, .json fault])

/-- Reads a queue of waves from a file. -/
def loadWaves (d : Disk) (path : String) : Except Chain (List Wave) :=
  match d.readText? path with
  | .ok text =>
    (parseWaves text).mapError (fun chain => .message ("Invalid waves file " ++ path) :: chain)
  | .error e =>
    .error (Chain.single
      ("Failed to read waves file at " ++ Text.quoted path ++ ": " ++ e.message))

end Source

/-- The applier of a workspace. -/
def Workspace.applier {φ : Type} [FileAccess φ] : Applier (Workspace φ) := ⟨Workspace.apply⟩

end EditWaves
