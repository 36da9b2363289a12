import EditWaves.Log
import EditWaves.Mutator

/-!
# Finding mutators

A resolver finds the mutator of a tag.  It asks its searchers in order, and the
first that knows the tag wins; what it has found once it keeps, so a searcher is
not asked about that tag again.

`Resolver.dispatch` applies a mutation with the mutator of its tag.  A tag that no
searcher knows is reported and leaves the contents as they are.  The children of a
`multiple` are dispatched last to first, and a plug-in dispatches what it likes.

Plug-ins can apply each other without end.  Where the program would run out of stack
after some depth, a resolver has a bound on how many plug-ins are at work inside one
another, and one more is a fault that no plug-in gets to hear of.
-/

namespace EditWaves

/-- What knows mutators by their tags: a table that can be added to, or a function. -/
inductive Searcher where
  | registry (table : Dict Mutator)
  | lookup (find : String → Option Mutator)

namespace Searcher

/-- The mutator of a tag. -/
def find? : Searcher → String → Option Mutator
  | registry table, tag => table.get? tag
  | lookup find, tag => find tag

/-- The table of the built-in mutators. -/
def builtins : Dict Mutator :=
  Dict.ofList [(Tag.delete, .delete), (Tag.insert, .insert), (Tag.replace, .replace),
    (Tag.swap, .swap), (Tag.multiple, .multiple)]

/-- Puts a mutator under a tag, replacing an older one. -/
def register (tag : String) (mutator : Mutator) : Searcher → Searcher
  | registry table => registry (table.insert tag mutator)
  | lookup find => lookup (fun t => if t = tag then some mutator else find t)

end Searcher

/-- A searcher and how often it has been asked. -/
structure Shelf where
  searcher : Searcher
  asked : Nat

/-- Asks searchers in order until one knows the tag. -/
def searchShelves (tag : String) : List Shelf → Option Mutator × List Shelf
  | [] => (none, [])
  | s :: rest =>
    let asked : Shelf := { s with asked := s.asked + 1 }
    match s.searcher.find? tag with
    | some mutator => (some mutator, asked :: rest)
    | none =>
      let (found, rest) := searchShelves tag rest
      (found, asked :: rest)

/-- Finds mutators and keeps what it has found. -/
structure Resolver where
  shelves : List Shelf
  cache : Dict Mutator
  /-- How many plug-ins there is room for inside one another. -/
  depth : Nat

/-- The outcome of applying a mutation: the new contents or a fault, the resolver
afterwards, and what was reported. -/
structure Dispatched where
  result : Except MutationError String
  resolver : Resolver
  log : Log

namespace Resolver

/-- A resolver that has not found anything yet. -/
def ofSearchers (searchers : List Searcher) (depth : Nat := 100) : Resolver :=
  ⟨searchers.map (⟨·, 0⟩), .empty, depth⟩

/-- The resolver of the built-in mutators. -/
def builtins : Resolver := ofSearchers [.registry Searcher.builtins]

/-- The mutator of a tag. -/
def resolve (r : Resolver) (tag : String) : Option Mutator × Resolver × Log :=
  match r.cache.get? tag with
  | some mutator => (some mutator, r, [])
  | none =>
    match searchShelves tag r.shelves with
    | (some mutator, shelves) =>
      (some mutator, { r with shelves, cache := r.cache.insert tag mutator }, [.resolved tag])
    | (none, shelves) => (none, { r with shelves }, [])

/-- Whether a tag has been found before. -/
def isCached (r : Resolver) (tag : String) : Bool := r.cache.contains tag

/-- Puts a mutator into one of the searchers. -/
def register (r : Resolver) (index : Nat) (tag : String) (mutator : Mutator) : Resolver :=
  let add (s : Shelf) : Shelf := { s with searcher := s.searcher.register tag mutator }
  { r with shelves := r.shelves.modify index add }

/-! ## Applying mutations

In this section `perform` says what plug-ins do.
-/

mutual

/-- Applies a mutation with a given mutator. -/
def mutateWith (perform : Resolver → Act → Dispatched) (r : Resolver) (mutator : Mutator)
    (contents : String) (m : Mutation) : Dispatched :=
  match mutator, m with
  | .multiple, .multiple _ children =>
    dispatchAllWith perform r contents (Mutation.lastToFirst children)
  | .plugin p, m => perform r (p.act contents m)
  | mutator, m => ⟨mutator.edit contents m, r, []⟩
termination_by (m.weight, 1)
decreasing_by
  apply Prod.Lex.left
  simp [Mutation.weight, Mutation.weights_lastToFirst]

/-- Applies a mutation with the mutator of its tag. -/
def dispatchWith (perform : Resolver → Act → Dispatched) (r : Resolver) (contents : String)
    (m : Mutation) : Dispatched :=
  match r.resolve m.tag with
  | (some mutator, r, log) =>
    let d := mutateWith perform r mutator contents m
    { d with log := log ++ d.log }
  | (none, r, log) => ⟨.ok contents, r, log ++ [.unknown m]⟩
termination_by (m.weight, 2)

/-- Applies mutations one after another, up to the first fault. -/
def dispatchAllWith (perform : Resolver → Act → Dispatched) (r : Resolver) (contents : String)
    (ms : List Mutation) : Dispatched :=
  match ms with
  | [] => ⟨.ok contents, r, []⟩
  | m :: rest =>
    let d := dispatchWith perform r contents m
    match d.result with
    | .ok contents =>
      let e := dispatchAllWith perform d.resolver contents rest
      { e with log := d.log ++ e.log }
    | .error fault => ⟨.error fault, d.resolver, d.log⟩
termination_by (Mutation.weights ms, 3)
decreasing_by
  · simp only [Mutation.weights]
    rcases Nat.eq_zero_or_pos (Mutation.weights rest) with h0 | h0
    · rw [h0, Nat.add_zero]
      exact Prod.Lex.right _ (by omega)
    · exact Prod.Lex.left _ _ (by omega)
  · apply Prod.Lex.left
    have := m.weight_pos
    simp only [Mutation.weights]
    omega

end

/-- What a resolver answers to a request, and how it is left by that. -/
def answer (perform : Resolver → Act → Dispatched) (r : Resolver) :
    (request : Request) → Option request.Answer × Resolver × Log
  | .dispatch contents m =>
    let d := r.dispatchWith perform contents m
    (Request.heard d.result, d.resolver, d.log)
  | .apply tag contents m =>
    match r.resolve tag with
    | (some mutator, r, log) =>
      let d := r.mutateWith perform mutator contents m
      ((Request.heard d.result).map some, d.resolver, log ++ d.log)
    | (none, r, log) => (some none, r, log)
  | .find tag =>
    let (found, r, log) := r.resolve tag
    (some found.isSome, r, log)
  | .isCached tag => (some (r.isCached tag), r, [])

/-- Lets a plug-in ask and go on until it is done. -/
def follow (perform : Resolver → Act → Dispatched) (r : Resolver) : Act → Dispatched
  | .done result => ⟨result, r, []⟩
  | .ask request next =>
    match r.answer perform request with
    | (some a, r, log) =>
      let d := follow perform r (next a)
      { d with log := log ++ d.log }
    | (none, r, log) => ⟨.error .overflow, r, log⟩

/-- Lets a plug-in act where there is room for some more of them inside one another. -/
def perform : Nat → Resolver → Act → Dispatched
  | 0, r, _ => ⟨.error .overflow, r, []⟩
  | depth + 1, r, a => follow (perform depth) r a

/-- Applies a mutation with a given mutator. -/
def mutate (r : Resolver) : Mutator → String → Mutation → Dispatched :=
  r.mutateWith (perform r.depth)

/-- Applies a mutation with the mutator of its tag. -/
def dispatch (r : Resolver) : String → Mutation → Dispatched :=
  r.dispatchWith (perform r.depth)

/-- Applies mutations one after another, up to the first fault. -/
def dispatchAll (r : Resolver) : String → List Mutation → Dispatched :=
  r.dispatchAllWith (perform r.depth)

end Resolver

end EditWaves
