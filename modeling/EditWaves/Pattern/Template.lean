import EditWaves.Pattern.Match
import EditWaves.Text.Splice
import EditWaves.Text.Utf8

/-!
# Replacement templates

A template is copied for every match, except for the references in it: `$$` is a
dollar, `$&` the match, `` $` `` and `$'` the text before and after it, `$n` and
`$nn` a numbered group, `$<name>` a named group.  A two-digit number that is no
group falls back to one digit.  Everything else, references to groups that do not
exist included, is copied as it is.

All the marks are ASCII, so a template is read byte by byte.

* `reference` reads the reference after a dollar.
* `expandBytes` is the template for one match, from bytes to bytes; `expand` is its
  text.
* `replaceAll` puts the expanded template in place of every match.
-/

namespace EditWaves.Pattern

open EditWaves.Text

/-- What a template can refer to. -/
structure Context where
  /-- The text that is searched. -/
  text : List Char
  found : Match
  /-- The groups that have a name. -/
  names : List (String × Nat)

namespace Context

/-- The number of groups. -/
def groupCount (c : Context) : Nat := c.found.groups.length

/-- The text of a group, numbered from one; empty if it took no part in the match. -/
def group (c : Context) : Nat → List Char
  | 0 => []
  | index + 1 =>
    match c.found.groups[index]? with
    | some (some (start, stop)) => slice c.text start stop
    | _ => []

/-- Whether there is a group with a number. -/
def hasGroup (c : Context) (index : Nat) : Bool := 1 ≤ index && index ≤ c.groupCount

/-- The text of the group whose name has these bytes; empty if there is none. -/
def namedGroup (c : Context) (name : List UInt8) : List Char :=
  match c.names.find? (fun entry => Utf8.ofChars entry.1.toList == name) with
  | some entry => c.group entry.2
  | none => []

/-- The text before the match. -/
def before (c : Context) : List Char := c.text.take c.found.start

/-- The text of the match. -/
def whole (c : Context) : List Char := slice c.text c.found.start c.found.stop

/-- The text after the match. -/
def after (c : Context) : List Char := c.text.drop c.found.stop

end Context

/-- The mark after which a reference means the text before the match. -/
def backquote : Char := Char.ofNat 96

/-- The mark after which a reference means the text after the match. -/
def apostrophe : Char := Char.ofNat 39

/-- The value of a decimal digit. -/
def digitValue? (b : UInt8) : Option Nat :=
  if '0'.toUInt8 ≤ b && b ≤ '9'.toUInt8 then some (b.toNat - '0'.toNat) else none

/-- Reads a numbered reference: the text it stands for and how many bytes it takes. -/
def numberedReference (c : Context) (first : Nat) (rest : List UInt8) :
    Option (List Char × Nat) :=
  let short := if c.hasGroup first then some (c.group first, 1) else none
  match rest with
  | b :: _ =>
    match digitValue? b with
    | some second =>
      if c.hasGroup (first * 10 + second) then some (c.group (first * 10 + second), 2) else short
    | none => short
  | [] => short

/-- Reads the reference that follows a dollar: the text it stands for and how many
bytes it takes.  `none` if the dollar stands for itself. -/
def reference (c : Context) : List UInt8 → Option (List Char × Nat)
  | [] => none
  | b :: rest =>
    if b = '$'.toUInt8 then some (['$'], 1)
    else if b = '&'.toUInt8 then some (c.whole, 1)
    else if b = backquote.toUInt8 then some (c.before, 1)
    else if b = apostrophe.toUInt8 then some (c.after, 1)
    else if b = '<'.toUInt8 then
      if c.names.isEmpty then none
      else
        match rest.idxOf? '>'.toUInt8 with
        | some close => some (c.namedGroup (rest.take close), close + 2)
        | none => none
    else
      match digitValue? b with
      | some first => numberedReference c first rest
      | none => none

/-- The bytes of a template for one match. -/
def expandBytes (c : Context) : List UInt8 → List UInt8
  | [] => []
  | b :: rest =>
    if b = '$'.toUInt8 then
      match reference c rest with
      | some (text, used) => Utf8.ofChars text ++ expandBytes c (rest.drop used)
      | none => b :: expandBytes c rest
    else b :: expandBytes c rest
termination_by template => template.length
decreasing_by all_goals simp; try omega

/-- The template for one match. -/
def expand (c : Context) (template : String) : String :=
  (String.fromUTF8? (expandBytes c (Utf8.ofChars template.toList)).toByteArray).getD ""

/-- Puts replacements in place of matches; `last` is the end of the match before. -/
def replaceMatches (text : List Char) (replacement : Match → List Char) (last : Nat) :
    List Match → List Char
  | [] => text.drop last
  | m :: rest =>
    slice text last m.start ++ replacement m ++ replaceMatches text replacement m.stop rest

/-- Replaces every match of a program by the expanded template. -/
def Program.replaceAll (p : Program) (template text : String) : String :=
  let chars := text.toList
  let replacement (m : Match) : List Char := (expand ⟨chars, m, p.names⟩ template).toList
  String.ofList (replaceMatches chars replacement 0 (p.findAll chars.toArray))

end EditWaves.Pattern
