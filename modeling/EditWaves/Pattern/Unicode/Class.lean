import EditWaves.Text.CharSet
import EditWaves.Pattern.Unicode.Category
import EditWaves.Pattern.Unicode.Script
import EditWaves.Pattern.Unicode.ScriptExtension
import EditWaves.Pattern.Unicode.Property
import EditWaves.Pattern.Unicode.Age
import EditWaves.Pattern.Unicode.Break
import EditWaves.Pattern.Unicode.Fold

/-!
# Unicode classes

Sets of characters by the name of a Unicode property, general category or script,
the sets behind `\d`, `\s` and `\w`, and closure under simple case folding.  Names
are compared without regard to case, blanks, dashes, underscores and a leading
`is`.
-/

namespace EditWaves.Pattern.Unicode

open Text (CharSet)

/-! ## Lookup by name -/

/-- The normal form of a name. -/
def normalize (name : String) : String :=
  let cs := name.toList.filter (fun c => c ≠ ' ' && c ≠ '_' && c ≠ '-' && c.toNat < 128)
  let cs := cs.map Char.toLower
  let hadIs := ['i', 's'].isPrefixOf (name.toList.take 2 |>.map Char.toLower)
  let body := if hadIs then cs.drop 2 else cs
  -- `isc` names a property of its own and is not the property `c`
  if hadIs && body = ['c'] then "isc" else String.ofList body

/-- The row of a table with a given name. -/
def row? (table : List (List String × List String)) (name : String) : Option CharSet :=
  (table.find? (fun r => r.1.contains name)).map (fun r => CharSet.ofGaps r.2)

/-- The union of several sets. -/
def unions (sets : List CharSet) : CharSet := CharSet.ofRuns (sets.flatMap CharSet.runs)

/-- Categories that are unions of others: their names and the basic ones. -/
def groupedCategories : List (List String × List String) := [
  (["c", "other"], ["cc", "cf", "cn", "co", "cs"]),
  (["l", "letter"], ["ll", "lm", "lo", "lt", "lu"]),
  (["lc", "casedletter"], ["ll", "lt", "lu"]),
  (["m", "mark", "combiningmark"], ["mc", "me", "mn"]),
  (["n", "number"], ["nd", "nl", "no"]),
  (["p", "punctuation", "punct"], ["pc", "pd", "pe", "pf", "pi", "po", "ps"]),
  (["s", "symbol"], ["sc", "sk", "sm", "so"]),
  (["z", "separator"], ["zl", "zp", "zs"])]

/-- The characters of a general category. -/
def category? (name : String) : Option CharSet :=
  match groupedCategories.find? (fun r => r.1.contains name) with
  | some (_, basic) => some (unions (basic.filterMap (row? categories)))
  | none =>
    if name = "any" then some CharSet.all
    else if name = "assigned" then (row? categories "cn").map CharSet.compl
    else if name = "ascii" then some ⟨[(0, 0x7F)]⟩
    else row? categories name

/-- The characters of a script. -/
def script? (name : String) : Option CharSet := row? scripts name

/-- The characters used with a script. -/
def scriptExtension? (name : String) : Option CharSet :=
  (row? scriptExtensions name).or (script? name)

/-- The characters that a version of Unicode knows: what it and the versions before it
added. -/
def age? (name : String) : Option CharSet :=
  if ages.any (fun r => r.1.contains name) then
    let before := ages.takeWhile (fun r => !r.1.contains name)
    some (unions ((row? ages name).toList ++ before.map (fun r => CharSet.ofGaps r.2)))
  else none

/-- The characters with a binary property. -/
def property? (name : String) : Option CharSet := row? properties name

/-- The characters that a single name stands for: a property, a category or a
script, in this order.  The names `cf`, `sc` and `lc` are always categories. -/
def named? (name : String) : Option CharSet :=
  let n := normalize name
  if n = "cf" || n = "sc" || n = "lc" then category? n
  else (property? n).or ((category? n).or (script? n))

/-- The characters for which a property has a value. -/
def valued? (name value : String) : Option CharSet :=
  let v := normalize value
  match normalize name with
  | "gc" | "generalcategory" | "category" => category? v
  | "sc" | "script" => script? v
  | "scx" | "scriptextensions" => scriptExtension? v
  | "age" => age? v
  | "gcb" | "graphemeclusterbreak" => row? graphemeBreaks v
  | "wb" | "wordbreak" => row? wordBreaks v
  | "sb" | "sentencebreak" => row? sentenceBreaks v
  | _ => none

/-! ## Common classes -/

/-- The decimal digits. -/
def digits : CharSet := (row? categories "nd").getD .empty

/-- The blank characters. -/
def spaces : CharSet := (row? properties "whitespace").getD .empty

/-- The alphabetic characters. -/
def alphabetic : CharSet := (row? properties "alphabetic").getD .empty

/-- The characters of words: letters, marks, digits, connectors and joiners. -/
def wordChars : CharSet :=
  unions ([alphabetic, digits] ++ ["mc", "me", "mn", "pc"].filterMap (row? categories) ++
    (row? properties "joincontrol").toList)

/-- Whether a character is alphabetic. -/
def isAlphabetic (c : Char) : Bool := alphabetic.contains c

/-- The characters with a numeric category. -/
def numeric : CharSet := (category? "n").getD .empty

/-- Whether a character has a numeric category. -/
def isNumeric (c : Char) : Bool := numeric.contains c

/-! ## Case folding -/

/-- Splits a list of characters at colons. -/
def splitColons : List Char → List (List Char)
  | [] => [[]]
  | c :: rest =>
    match splitColons rest with
    | [] => [[c]]
    | w :: ws => if c = ':' then [] :: w :: ws else (c :: w) :: ws

/-- The characters of a run of the folding table with their folded forms. -/
def foldRun (word : List Char) : List (Nat × Nat) :=
  match splitColons word with
  | [first, count, step, distance] =>
    let first := CharSet.number36 first
    let step := CharSet.number36 step
    let shift (n : Nat) : Nat := match distance with
      | '-' :: d => n - CharSet.number36 d
      | d => n + CharSet.number36 d
    (List.range (CharSet.number36 count)).map (fun i =>
      let c := first + i * step
      (c, shift c))
  | _ => []

/-- Characters with their folded forms. -/
def foldPairs : List (Nat × Nat) := (foldRuns.flatMap (fun l => CharSet.words l.toList)).flatMap foldRun

/-- A set with all characters that differ from a member only by case. -/
def closeUnderCase (s : CharSet) : CharSet :=
  let folded := CharSet.ofRuns (foldPairs.filterMap (fun (c, f) =>
    if s.mem c || s.mem f then some (f, f) else none))
  let others := foldPairs.filterMap (fun (c, f) => if folded.mem f then some (c, c) else none)
  CharSet.ofRuns (s.runs ++ folded.runs ++ others)

end EditWaves.Pattern.Unicode
