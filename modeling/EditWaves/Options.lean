import EditWaves.Config.Basic

/-!
# Command-line options

`Options.parse` reads the arguments of the program.  A value follows its option or
is attached to it; it is looked at when the next option begins or the arguments
end, so that of two faults the one that is met first in this order counts.
`--command` takes everything that follows it.
-/

namespace EditWaves

/-- What the command line asks for. -/
structure Options where
  config : Option String
  command : Option (List String)
  wavesFile : Option String
  minWaves : Option Nat
  maxWaves : Option Nat
  rootDir : Option String
  abortOnError : Bool
deriving Repr, BEq, DecidableEq, Inhabited

namespace Options

/-- The command line without arguments. -/
def empty : Options := ⟨none, none, none, none, none, none, false⟩

/-- Why arguments are not turned into options. -/
inductive Stop where
  | unknownArgument
  /-- A value is missing or empty. -/
  | invalidValue
  /-- A value is no number. -/
  | valueValidation
  /-- Two options exclude each other, or one is repeated. -/
  | argumentConflict
  /-- A switch has a value. -/
  | tooManyValues
  | displayHelp
  | displayVersion
deriving Repr, BEq, DecidableEq, Inhabited

/-- The wording of a fault. -/
def Stop.message : Stop → String
  | unknownArgument => "unexpected argument found"
  | invalidValue => "a value is required for an option"
  | valueValidation => "invalid value for an option"
  | argumentConflict => "an option cannot be used with another one or multiple times"
  | tooManyValues => "unexpected value for an option"
  | displayHelp => "help was asked for"
  | displayVersion => "the version was asked for"

/-- The options that take values. -/
inductive Key where
  | config
  | command
  | wavesFile
  | minWaves
  | maxWaves
  | rootDir
deriving Repr, BEq, DecidableEq, Inhabited

/-- The options that take none. -/
inductive Switch where
  | abortOnError
  | help
  | version
deriving Repr, BEq, DecidableEq, Inhabited

/-- An option by its name. -/
inductive Named where
  | key (k : Key)
  | switch (s : Switch)
deriving Repr, BEq, DecidableEq, Inhabited

/-- The option of a long name. -/
def longName? : String → Option Named
  | "config" => some (.key .config)
  | "command" => some (.key .command)
  | "waves-file" => some (.key .wavesFile)
  | "min-waves" => some (.key .minWaves)
  | "max-waves" => some (.key .maxWaves)
  | "root-dir" => some (.key .rootDir)
  | "abort-on-error" => some (.switch .abortOnError)
  | "help" => some (.switch .help)
  | "version" => some (.switch .version)
  | _ => none

/-- The option of a letter. -/
def letter? : Char → Option Named
  | 'c' => some (.key .config)
  | 'h' => some (.switch .help)
  | 'V' => some (.switch .version)
  | _ => none

/-- Whether an option has been given. -/
def has (o : Options) : Key → Bool
  | .config => o.config.isSome
  | .command => o.command.isSome
  | .wavesFile => o.wavesFile.isSome
  | .minWaves => o.minWaves.isSome
  | .maxWaves => o.maxWaves.isSome
  | .rootDir => o.rootDir.isSome

/-- A number of 64 bits. -/
def number (value : String) : Except Stop Nat :=
  let ds := match value.toList with
    | '+' :: rest => rest
    | cs => cs
  if ds ≠ [] && ds.all Char.isDigit then
    let n := ds.foldl (fun n c => n * 10 + (c.toNat - '0'.toNat)) 0
    if n < 18446744073709551616 then .ok n else .error .valueValidation
  else .error .valueValidation

/-- A path. -/
def path (value : String) : Except Stop String :=
  if value = "" then .error .invalidValue else .ok value

/-- Puts the value of an option into the options. -/
def assign (o : Options) (k : Key) (value : String) : Except Stop Options := do
  match k with
  | .config => return { o with config := some (← path value) }
  | .wavesFile => return { o with wavesFile := some (← path value) }
  | .rootDir => return { o with rootDir := some (← path value) }
  | .minWaves => return { o with minWaves := some (← number value) }
  | .maxWaves => return { o with maxWaves := some (← number value) }
  | .command => return { o with command := some (o.command.getD [] ++ [value]) }

/-- Settles an option with the values it got.  Only the command may come in parts. -/
def settle (o : Options) (k : Key) (values : List String) : Except Stop Options :=
  if values = [] then .error .invalidValue
  else if k ≠ .command && o.has k then .error .argumentConflict
  else values.foldlM (fun o v => o.assign k v) o

/-- Where reading the arguments stands: the options so far, and one whose values are
not settled. -/
structure Reading where
  options : Options
  pending : Option (Key × List String)

namespace Reading

/-- Settles the option that is pending. -/
def settled (r : Reading) : Except Stop Options :=
  match r.pending with
  | some (k, values) => r.options.settle k values
  | none => .ok r.options

/-- Whether the option that is pending takes the next argument that is no option. -/
def awaits (r : Reading) : Bool :=
  match r.pending with
  | some (k, values) => k = .command || values = []
  | none => false

/-- Whether the option that is pending takes any argument. -/
def awaitsAll (r : Reading) : Bool :=
  match r.pending with
  | some (k, _) => k = .command
  | none => false

/-- Adds a value to the option that is pending. -/
def push (r : Reading) (value : String) : Reading :=
  { r with pending := r.pending.map (fun p => (p.1, p.2 ++ [value])) }

/-- Begins an option, with the value that is attached to it if there is one. -/
def begin (r : Reading) (k : Key) (attached : Option String) : Except Stop Reading := do
  let o ← r.settled
  match attached with
  | some v => return ⟨← o.settle k [v], none⟩
  | none => return ⟨o, some (k, [])⟩

/-- Turns a switch. -/
def turn (r : Reading) (s : Switch) : Except Stop Reading := do
  let o ← r.settled
  match s with
  | .help => .error .displayHelp
  | .version => .error .displayVersion
  | .abortOnError =>
    if o.abortOnError then .error .argumentConflict
    else return ⟨{ o with abortOnError := true }, none⟩

/-- Reads an argument with a long name. -/
def long (r : Reading) (body : List Char) : Except Stop Reading :=
  let name := String.ofList (body.takeWhile (· ≠ '='))
  let attached := match body.dropWhile (· ≠ '=') with
    | [] => none
    | _ :: value => some (String.ofList value)
  match longName? name, attached with
  | some (.key k), attached => r.begin k attached
  | some (.switch _), some _ => .error .tooManyValues
  | some (.switch s), none => r.turn s
  | none, _ => .error .unknownArgument

/-- Reads letters behind one hyphen; after the letter of an option the rest is its
value. -/
def letters (r : Reading) : List Char → Except Stop Reading
  | [] => .ok r
  | c :: rest =>
    match letter? c, rest with
    | some (.key k), [] => r.begin k none
    | some (.key k), '=' :: value => r.begin k (some (String.ofList value))
    | some (.key k), value => r.begin k (some (String.ofList value))
    | some (.switch s), rest => do
      let r ← r.turn s
      r.letters rest
    | none, _ => .error .unknownArgument

/-- Reads one argument that is not `--`. -/
def argument (r : Reading) (a : String) : Except Stop Reading :=
  if r.awaitsAll then .ok (r.push a)
  else
    match a.toList with
    | '-' :: '-' :: body => r.long body
    | '-' :: c :: rest => r.letters (c :: rest)
    | _ => if r.awaits then .ok (r.push a) else .error .unknownArgument

/-- Reads arguments.  After `--` no argument is left to take. -/
def run (r : Reading) : List String → Except Stop Reading
  | [] => .ok r
  | a :: rest =>
    if a = "--" && !r.awaitsAll then
      if rest = [] then .ok r else .error .unknownArgument
    else do
      let r ← r.argument a
      r.run rest

end Reading

/-- Reads the arguments of the program. -/
def parse (arguments : List String) : Except Stop Options := do
  let r ← Reading.run ⟨.empty, none⟩ arguments
  let o ← r.settled
  if o.command.isSome && o.wavesFile.isSome then .error .argumentConflict else return o

end Options

/-- The configuration with what the command line sets put over it. -/
def Config.overlay (c : Config) (o : Options) : Config :=
  let command (values : List String) : CommandSettings :=
    { c.provider.command.getD .default with command := values }
  { waves := ⟨o.minWaves.getD c.waves.minimum, o.maxWaves <|> c.waves.maximum⟩
    rootDir := o.rootDir <|> c.rootDir
    onFileError := if o.abortOnError then .abort else c.onFileError
    provider :=
      { selected :=
          if o.wavesFile.isSome then .wavesFile
          else if o.command.isSome then .command
          else c.provider.selected
        command := (o.command.map command) <|> c.provider.command
        wavesFile := o.wavesFile <|> c.provider.wavesFile } }

end EditWaves
