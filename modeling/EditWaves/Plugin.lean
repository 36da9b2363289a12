import EditWaves.Mutation.Basic
import EditWaves.Mutation.Error

/-!
# Plug-ins

A plug-in is a mutator that comes from outside.  Besides the contents and the mutation it
is given the resolver, with which it can have other mutations applied, such as children
of its own, and go by what comes of them.  What it does is therefore a tree: an `Act` is
done, or it asks the resolver for something and goes on with the answer.

A plug-in has to be pure with respect to its inputs: the same contents and mutation
always come to the same, in what it asks for as in what it returns, since a mutation that
it dispatches can be reported.  So it may go by which mutators there are and by what these
do, but not by what the resolver has happened to find before.  `Plugin.pure` says this of
every request that it can make.
-/

namespace EditWaves

/-- What a plug-in can ask of a resolver. -/
inductive Request where
  /-- To apply a mutation with the mutator of its tag. -/
  | dispatch (contents : String) (m : Mutation)
  /-- To apply a mutation with the mutator of a tag that need not be its own. -/
  | apply (tag contents : String) (m : Mutation)
  /-- Whether there is a mutator for a tag. -/
  | find (tag : String)
  /-- Whether a tag has been found before. -/
  | isCached (tag : String)

namespace Request

/-- What is answered to a request: the new contents or a fault, if a mutation is to be
applied and there is a mutator to do it with. -/
abbrev Answer : Request → Type
  | dispatch _ _ => Except MutationError String
  | apply _ _ _ => Option (Except MutationError String)
  | find _ | isCached _ => Bool

/-- Whether a request is about what has been found before. -/
def asksCache : Request → Bool
  | isCached _ => true
  | _ => false

/-- What a plug-in hears of a result.  Where the stack has overflowed nothing goes on. -/
def heard : Except MutationError String → Option (Except MutationError String)
  | .error .overflow => none
  | result => some result

end Request

/-- What a plug-in does. -/
inductive Act where
  | done (result : Except MutationError String)
  | ask (request : Request) (next : request.Answer → Act)

/-- Nothing that is done hangs on what has been found before. -/
inductive Act.IgnoresCache : Act → Prop where
  | done (result : Except MutationError String) : IgnoresCache (.done result)
  | ask {request : Request} {next : request.Answer → Act}
      (hcache : request.asksCache = true → ∀ a b, next a = next b)
      (hnext : ∀ a, IgnoresCache (next a)) : IgnoresCache (.ask request next)

/-- A mutator that comes from outside. -/
structure Plugin where
  act : String → Mutation → Act
  pure : ∀ contents m, (act contents m).IgnoresCache

/-- A plug-in that needs no resolver. -/
def Plugin.alone (edit : String → Mutation → Except MutationError String) : Plugin where
  act contents m := .done (edit contents m)
  pure contents m := .done (edit contents m)

end EditWaves
