import EditWaves.Decimal.Binary

/-!
# TOML values

The values of a configuration text.  Tables remember how they came to be, because
that decides whether a later line may add to them: `Toml.define`, `Toml.openTable`
and `Toml.openArray` build a document line by line and refuse what defines
something twice.
-/

namespace EditWaves

/-- How a table came to be. -/
inductive Toml.Form where
  /-- Written in braces. -/
  | inline
  /-- Opened by a header. -/
  | header
  /-- Passed on the way to a header. -/
  | implied
  /-- Passed on the way to a dotted key. -/
  | dotted
deriving Repr, BEq, DecidableEq, Inhabited

/-- A value of a configuration text. -/
inductive Toml where
  | string (s : String)
  | integer (n : Int)
  | float (x : Decimal.Binary)
  | boolean (b : Bool)
  /-- A date, a time or both. -/
  | moment
  | array (items : List Toml)
  /-- Tables that headers in double brackets opened. -/
  | tables (items : List Toml)
  | table (form : Toml.Form) (entries : List (String × Toml))
deriving Inhabited

namespace Toml

/-- The value of a key. -/
def lookup (key : String) : List (String × Toml) → Option Toml
  | [] => none
  | (k, v) :: rest => if k = key then some v else lookup key rest

/-- Replaces the value of a key. -/
def replace (key : String) (value : Toml) : List (String × Toml) → List (String × Toml)
  | [] => []
  | (k, v) :: rest => if k = key then (k, value) :: rest else (k, v) :: replace key value rest

/-- Changes the last of several items. -/
def changeLast (change : Toml → Option Toml) : List Toml → Option (List Toml)
  | [] => none
  | [t] => (change t).map (fun t => [t])
  | t :: rest => (changeLast change rest).map (t :: ·)

/-- Changes the table at the end of a path and creates the tables on the way to it.
A path of a dotted key may not pass a table that a header opened. -/
def within (dotted : Bool) (change : Toml → Option Toml) : List String → Toml → Option Toml
  | [], t => change t
  | key :: path, .table form entries =>
    match lookup key entries with
    | none =>
      let fresh := table (if dotted then .dotted else .implied) []
      (within dotted change path fresh).map (fun t => .table form (entries ++ [(key, t)]))
    | some (.table f sub) =>
      if f = .inline || (dotted && f = .header) then none
      else (within dotted change path (.table f sub)).map (fun t =>
        .table form (replace key t entries))
    | some (.tables items) =>
      (changeLast (within dotted change path) items).map (fun items =>
        .table form (replace key (.tables items) entries))
    | some _ => none
  | _ :: _, _ => none

/-- Adds a key to a table; `direct` tells that no dot led there. -/
def addKey (direct : Bool) (key : String) (value : Toml) : Toml → Option Toml
  | .table form entries =>
    if (form = .dotted) = direct || (lookup key entries).isSome then none
    else some (.table form (entries ++ [(key, value)]))
  | _ => none

/-- Adds a dotted key to a table. -/
def define (path : List String) (key : String) (value : Toml) : Toml → Option Toml :=
  within true (addKey path.isEmpty key value) path

/-- Opens the table of a header.  A table that was only passed before is moved to the
end. -/
def openTable (key : String) : Toml → Option Toml
  | .table form entries =>
    match lookup key entries with
    | none => some (.table form (entries ++ [(key, .table .header [])]))
    | some (.table .implied sub) =>
      some (.table form (entries.filter (·.1 ≠ key) ++ [(key, .table .header sub)]))
    | some _ => none
  | _ => none

/-- Opens one more table of a header in double brackets. -/
def openArray (key : String) : Toml → Option Toml
  | .table form entries =>
    match lookup key entries with
    | none => some (.table form (entries ++ [(key, .tables [.table .header []])]))
    | some (.tables items) =>
      some (.table form (replace key (.tables (items ++ [.table .header []])) entries))
    | some _ => none
  | _ => none

end Toml

end EditWaves
