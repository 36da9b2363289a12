import EditWaves.Mutation.Error
import EditWaves.Mutation.Order
import EditWaves.Pattern.Template
import EditWaves.Plugin

/-!
# Mutators

A mutator applies one kind of mutation to the contents of a file.  The built-in
ones edit text.  `multiple` hands its children on, and a plug-in can ask for
anything to be applied, so both are applied where mutators are found by their tags.
-/

namespace EditWaves

/-- What applies mutations of one tag. -/
inductive Mutator where
  | delete
  | insert
  | replace
  | swap
  | multiple
  | plugin (p : Plugin)

namespace Mutator

/-- The tag that a built-in mutator is for. -/
def tag? : Mutator → Option String
  | delete => some Tag.delete
  | insert => some Tag.insert
  | replace => some Tag.replace
  | swap => some Tag.swap
  | multiple => some Tag.multiple
  | plugin _ => none

/-- The refusal of a mutation of another kind. -/
def refuse (expected : String) (m : Mutation) : Except MutationError String :=
  .error (.unexpectedKind expected m.tag)

/-- Replaces every match of a pattern in a text. -/
def replaceText (search template contents : String) : Except MutationError String :=
  match Pattern.compile? search with
  | some program => .ok (program.replaceAll template contents)
  | none => .error (.invalidPattern search)

/-- Applies a mutation with a mutator that does so by itself; the others refuse. -/
def edit (mutator : Mutator) (contents : String) (m : Mutation) : Except MutationError String :=
  match mutator, m with
  | delete, .delete r => .ok (Text.splice contents r.start r.effectiveEnd "")
  | delete, m => refuse Tag.delete m
  | insert, .insert r text => .ok (Text.splice contents r.start r.start text)
  | insert, m => refuse Tag.insert m
  | replace, .replace _ search template => replaceText search template contents
  | replace, m => refuse Tag.replace m
  | swap, .swap r text => .ok (Text.splice contents r.start r.effectiveEnd text)
  | swap, m => refuse Tag.swap m
  | multiple, m => refuse Tag.multiple m
  | plugin _, m => refuse m.tag m

/-- Turns the seven-bit letters at positions from `start` to before `stop` into
capitals. -/
def upperBetween (start stop : Nat) (cs : List Char) : List Char :=
  cs.take start ++ ((cs.drop start).take (stop - start)).map Char.toUpper ++
    cs.drop (max start stop)

/-- A plug-in that turns the letters in the range of any mutation into capitals. -/
def uppercase : Mutator :=
  plugin (.alone (fun contents m =>
    .ok (String.ofList (upperBetween m.start m.effectiveEnd contents.toList))))

end Mutator

end EditWaves
