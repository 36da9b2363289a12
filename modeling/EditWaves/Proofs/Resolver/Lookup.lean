import EditWaves.Proofs.Dict.Lookup
import EditWaves.Resolver

/-!
# Applying mutations without a cache

A resolver remembers what it has found and counts how often its searchers were
asked.  None of this shows in what it does to a text: `Resolver.lookup` is the
function from tags to mutators that a resolver stands for, and `Lookup.dispatch`
applies a mutation with such a function and nothing else.

* `lookup_resolve`: finding a mutator does not change what a resolver stands for,
  since what it puts into the cache is what its searchers would answer again.
* `agrees_withPlugins`: the resulting text or fault and the skipped mutations are those
  of the function, if what plug-ins do is.
* `agrees_follow`: it is as long as a plug-in acts, since what it does next hangs on the
  answers that it gets and never on the cache.
* `agrees_dispatch`, from both by induction on the depth.
-/

namespace EditWaves

/-! ## A function from tags to mutators -/

/-- What finds the mutator of a tag and remembers nothing. -/
@[ext]
structure Lookup where
  find : String → Option Mutator
  /-- How many plug-ins there is room for inside one another. -/
  depth : Nat

instance : CoeFun Lookup (fun _ => String → Option Mutator) := ⟨Lookup.find⟩

/-- What applying a mutation does: the new contents or a fault, and the mutations that
were skipped because no mutator has their tag. -/
structure Effect where
  result : Except MutationError String
  skipped : List Mutation

namespace Lookup

mutual

/-- Applies a mutation with a given mutator; `perform` says what plug-ins do. -/
def mutateWith (perform : Act → Effect) (find : Lookup) (mutator : Mutator) (contents : String)
    (m : Mutation) : Effect :=
  match mutator, m with
  | .multiple, .multiple _ children =>
    dispatchAllWith perform find contents (Mutation.lastToFirst children)
  | .plugin p, m => perform (p.act contents m)
  | mutator, m => ⟨mutator.edit contents m, []⟩
termination_by (m.weight, 1)
decreasing_by
  apply Prod.Lex.left
  simp [Mutation.weight, Mutation.weights_lastToFirst]

/-- Applies a mutation with the mutator of its tag. -/
def dispatchWith (perform : Act → Effect) (find : Lookup) (contents : String) (m : Mutation) :
    Effect :=
  match find m.tag with
  | some mutator => mutateWith perform find mutator contents m
  | none => ⟨.ok contents, [m]⟩
termination_by (m.weight, 2)

/-- Applies mutations one after another, up to the first fault. -/
def dispatchAllWith (perform : Act → Effect) (find : Lookup) (contents : String)
    (ms : List Mutation) : Effect :=
  match ms with
  | [] => ⟨.ok contents, []⟩
  | m :: rest =>
    let d := dispatchWith perform find contents m
    match d.result with
    | .ok contents =>
      let e := dispatchAllWith perform find contents rest
      { e with skipped := d.skipped ++ e.skipped }
    | .error fault => ⟨.error fault, d.skipped⟩
termination_by (Mutation.weights ms, 3)
decreasing_by
  · simp only [Mutation.weights]
    rcases Nat.eq_zero_or_pos (Mutation.weights rest) with h0 | h0
    · rw [h0, Nat.add_zero]
      exact Prod.Lex.right _ (by omega)
    · exact Prod.Lex.left _ _ (by omega)
  · apply Prod.Lex.left
    have := m.weight_pos
    simp only [Mutation.weights]
    omega

end

/-- What is answered to a request where nothing is ever remembered. -/
def answer (perform : Act → Effect) (find : Lookup) :
    (request : Request) → Option request.Answer × List Mutation
  | .dispatch contents m =>
    let e := find.dispatchWith perform contents m
    (Request.heard e.result, e.skipped)
  | .apply tag contents m =>
    match find tag with
    | some mutator =>
      let e := find.mutateWith perform mutator contents m
      ((Request.heard e.result).map some, e.skipped)
    | none => (some none, [])
  | .find tag => (some (find tag).isSome, [])
  | .isCached _ => (some false, [])

/-- Lets a plug-in ask and go on until it is done. -/
def follow (perform : Act → Effect) (find : Lookup) : Act → Effect
  | .done result => ⟨result, []⟩
  | .ask request next =>
    match find.answer perform request with
    | (some a, skipped) =>
      let e := follow perform find (next a)
      { e with skipped := skipped ++ e.skipped }
    | (none, skipped) => ⟨.error .overflow, skipped⟩

/-- Lets a plug-in act where there is room for some more of them inside one another. -/
def perform (find : Lookup) : Nat → Act → Effect
  | 0, _ => ⟨.error .overflow, []⟩
  | depth + 1, a => find.follow (find.perform depth) a

/-- Applies a mutation with a given mutator. -/
def mutate (find : Lookup) : Mutator → String → Mutation → Effect :=
  find.mutateWith (find.perform find.depth)

/-- Applies a mutation with the mutator of its tag. -/
def dispatch (find : Lookup) : String → Mutation → Effect :=
  find.dispatchWith (find.perform find.depth)

/-- Applies mutations one after another, up to the first fault. -/
def dispatchAll (find : Lookup) : String → List Mutation → Effect :=
  find.dispatchAllWith (find.perform find.depth)

section Equations

variable (find : Lookup) (contents : String)

theorem dispatch_eq (m : Mutation) : find.dispatch contents m = match find m.tag with
    | some mutator => find.mutate mutator contents m
    | none => ⟨.ok contents, [m]⟩ := by
  rw [dispatch, dispatchWith]
  rfl

theorem mutate_multiple (range : EditRange) (children : List Mutation) :
    find.mutate .multiple contents (.multiple range children)
      = find.dispatchAll contents (Mutation.lastToFirst children) := by
  rw [mutate, mutateWith]
  rfl

theorem mutate_plugin (p : Plugin) (m : Mutation) :
    find.mutate (.plugin p) contents m = find.perform find.depth (p.act contents m) := by
  rw [mutate, mutateWith]

theorem dispatchAll_nil : find.dispatchAll contents [] = ⟨.ok contents, []⟩ := by
  rw [dispatchAll, dispatchAllWith]

end Equations

end Lookup

/-! ## What a resolver stands for -/

/-- The mutations that a log says were skipped. -/
def Log.skipped (log : Log) : List Mutation :=
  log.filterMap (fun e => match e with
    | .unknown m => some m
    | _ => none)

@[simp] theorem Log.skipped_append (l₁ l₂ : Log) :
    Log.skipped (l₁ ++ l₂) = Log.skipped l₁ ++ Log.skipped l₂ :=
  List.filterMap_append

/-- An outcome without the resolver and the log. -/
def Dispatched.effect (d : Dispatched) : Effect := ⟨d.result, Log.skipped d.log⟩

/-- The built-in table has for a tag only the mutator that is for it. -/
theorem Searcher.tag?_of_builtins {tag : String} {mutator : Mutator}
    (h : builtins.get? tag = some mutator) : mutator.tag? = some tag := by
  have htable := Dict.mem_of_mem_ofList (Dict.mem_entries_iff.2 h)
  simp only [List.mem_cons, Prod.mk.injEq, List.not_mem_nil, or_false] at htable
  rcases htable with ⟨rfl, rfl⟩ | ⟨rfl, rfl⟩ | ⟨rfl, rfl⟩ | ⟨rfl, rfl⟩ | ⟨rfl, rfl⟩ <;> rfl

theorem searchShelves_searchers (tag : String) (shelves : List Shelf) :
    (searchShelves tag shelves).2.map Shelf.searcher = shelves.map Shelf.searcher := by
  induction shelves with
  | nil => rfl
  | cons s rest ih =>
    rw [searchShelves]
    cases s.searcher.find? tag with
    | some mutator => rfl
    | none => simp only [List.map_cons, ih]

/-- The first searcher that knows a tag wins. -/
theorem searchShelves_found (tag : String) (shelves : List Shelf) :
    (searchShelves tag shelves).1
      = (shelves.map Shelf.searcher).findSome? (fun s => s.find? tag) := by
  induction shelves with
  | nil => rfl
  | cons s rest ih =>
    rw [searchShelves, List.map_cons, List.findSome?_cons]
    cases h : s.searcher.find? tag with
    | some mutator => rfl
    | none => simp only [ih]

namespace Resolver

theorem resolve_cached {r : Resolver} {tag : String} {mutator : Mutator}
    (hcache : r.cache.get? tag = some mutator) : r.resolve tag = (some mutator, r, []) := by
  rw [resolve, hcache]

theorem resolve_found {r : Resolver} {tag : String} {mutator : Mutator} {shelves : List Shelf}
    (hcache : r.cache.get? tag = none)
    (hsearch : searchShelves tag r.shelves = (some mutator, shelves)) :
    r.resolve tag
      = (some mutator, ⟨shelves, r.cache.insert tag mutator, r.depth⟩, [.resolved tag]) := by
  rw [resolve, hcache, hsearch]

theorem resolve_missing {r : Resolver} {tag : String} {shelves : List Shelf}
    (hcache : r.cache.get? tag = none)
    (hsearch : searchShelves tag r.shelves = (none, shelves)) :
    r.resolve tag = (none, ⟨shelves, r.cache, r.depth⟩, []) := by
  rw [resolve, hcache, hsearch]

/-- The function from tags to mutators that a resolver stands for. -/
def lookup (r : Resolver) : Lookup := ⟨fun tag => (r.resolve tag).1, r.depth⟩

theorem lookup_eq (r : Resolver) (tag : String) :
    r.lookup tag = (r.cache.get? tag
      <|> (r.shelves.map Shelf.searcher).findSome? (fun s => s.find? tag)) := by
  rw [← searchShelves_found]
  show (r.resolve tag).1 = _
  cases hcache : r.cache.get? tag with
  | some mutator =>
    rw [resolve_cached hcache]
    rfl
  | none =>
    rcases hsearch : searchShelves tag r.shelves with ⟨found, shelves⟩
    cases found with
    | none => rw [resolve_missing hcache hsearch]; rfl
    | some mutator => rw [resolve_found hcache hsearch]; rfl

theorem depth_resolve (r : Resolver) (tag : String) : (r.resolve tag).2.1.depth = r.depth := by
  cases hcache : r.cache.get? tag with
  | some mutator => rw [resolve_cached hcache]
  | none =>
    rcases hsearch : searchShelves tag r.shelves with ⟨found, shelves⟩
    cases found with
    | none => rw [resolve_missing hcache hsearch]
    | some mutator => rw [resolve_found hcache hsearch]

/-- Finding a mutator does not change what a resolver stands for. -/
theorem lookup_resolve (r : Resolver) (tag : String) :
    (r.resolve tag).2.1.lookup = r.lookup := by
  refine Lookup.ext (funext fun t => ?_) (r.depth_resolve tag)
  have hsearchers := searchShelves_searchers tag r.shelves
  have hfound := searchShelves_found tag r.shelves
  cases hcache : r.cache.get? tag with
  | some mutator => rw [resolve_cached hcache]
  | none =>
    rcases hsearch : searchShelves tag r.shelves with ⟨found, shelves⟩
    rw [hsearch] at hsearchers hfound
    cases found with
    | none =>
      rw [resolve_missing hcache hsearch, lookup_eq, lookup_eq]
      simp only [hsearchers]
    | some mutator =>
      rw [resolve_found hcache hsearch, lookup_eq, lookup_eq]
      simp only [hsearchers, Dict.get?_insert]
      by_cases ht : tag = t
      · rw [← ht, hcache, if_pos rfl, ← hfound]
        rfl
      · rw [if_neg ht]

theorem skipped_resolve (r : Resolver) (tag : String) :
    Log.skipped (r.resolve tag).2.2 = [] := by
  cases hcache : r.cache.get? tag with
  | some mutator =>
    rw [resolve_cached hcache]
    rfl
  | none =>
    rcases hsearch : searchShelves tag r.shelves with ⟨found, shelves⟩
    cases found with
    | none => rw [resolve_missing hcache hsearch]; rfl
    | some mutator => rw [resolve_found hcache hsearch]; rfl

/-! ## Applying mutations -/

/-- An outcome has the effect of a lookup and leaves a resolver that stands for the
same lookup. -/
structure Agrees (d : Dispatched) (find : Lookup) (e : Effect) : Prop where
  effect : d.effect = e
  lookup : d.resolver.lookup = find

/-- Plug-ins that do not go by the cache do with a resolver what they do with the lookup
that it stands for. -/
def PerformsAs (perform : Resolver → Act → Dispatched) (plain : Lookup → Act → Effect) : Prop :=
  ∀ (r : Resolver) (a : Act), a.IgnoresCache → Agrees (perform r a) r.lookup (plain r.lookup a)

section Steps

variable {perform : Resolver → Act → Dispatched} {plain : Lookup → Act → Effect} {r r' : Resolver}
  {contents : String} {m : Mutation} {mutator : Mutator} {log : Log}

theorem agrees_found (hfound : r.resolve m.tag = (some mutator, r', log))
    (h : Agrees (r'.mutateWith perform mutator contents m) r'.lookup
      (r'.lookup.mutateWith (plain r'.lookup) mutator contents m)) :
    Agrees (r.dispatchWith perform contents m) r.lookup
      (r.lookup.dispatchWith (plain r.lookup) contents m) := by
  have hlookup : r'.lookup = r.lookup := by
    have := lookup_resolve r m.tag
    rwa [hfound] at this
  have hskipped : Log.skipped log = [] := by
    have := skipped_resolve r m.tag
    rwa [hfound] at this
  have hmutator : r.lookup m.tag = some mutator := by
    show (r.resolve m.tag).1 = some mutator
    rw [hfound]
  rw [hlookup] at h
  rw [dispatchWith, hfound, Lookup.dispatchWith, hmutator]
  refine ⟨Eq.trans ?_ h.effect, h.lookup⟩
  simp only [Dispatched.effect, Log.skipped_append, hskipped, List.nil_append]

theorem agrees_missing (hmissing : r.resolve m.tag = (none, r', log)) :
    Agrees (r.dispatchWith perform contents m) r.lookup
      (r.lookup.dispatchWith (plain r.lookup) contents m) := by
  have hlookup : r'.lookup = r.lookup := by
    have := lookup_resolve r m.tag
    rwa [hmissing] at this
  have hskipped : Log.skipped log = [] := by
    have := skipped_resolve r m.tag
    rwa [hmissing] at this
  have hmutator : r.lookup m.tag = none := by
    show (r.resolve m.tag).1 = none
    rw [hmissing]
  rw [dispatchWith, hmissing, Lookup.dispatchWith, hmutator]
  refine ⟨?_, hlookup⟩
  simp only [Dispatched.effect, Log.skipped_append, hskipped, List.nil_append]
  rfl

theorem agrees_cons_ok {text : String} {rest : List Mutation}
    (hm : Agrees (r.dispatchWith perform contents m) r.lookup
      (r.lookup.dispatchWith (plain r.lookup) contents m))
    (hok : (r.dispatchWith perform contents m).result = .ok text)
    (hrest : Agrees ((r.dispatchWith perform contents m).resolver.dispatchAllWith perform text rest)
      (r.dispatchWith perform contents m).resolver.lookup
      ((r.dispatchWith perform contents m).resolver.lookup.dispatchAllWith
        (plain (r.dispatchWith perform contents m).resolver.lookup) text rest)) :
    Agrees (r.dispatchAllWith perform contents (m :: rest)) r.lookup
      (r.lookup.dispatchAllWith (plain r.lookup) contents (m :: rest)) := by
  rw [hm.lookup] at hrest
  rw [dispatchAllWith, Lookup.dispatchAllWith, ← hm.effect]
  simp only [Dispatched.effect, hok]
  refine ⟨?_, hrest.lookup⟩
  rw [← hrest.effect]
  simp only [Dispatched.effect, Log.skipped_append]

theorem agrees_cons_error {rest : List Mutation} {fault : MutationError}
    (hm : Agrees (r.dispatchWith perform contents m) r.lookup
      (r.lookup.dispatchWith (plain r.lookup) contents m))
    (herror : (r.dispatchWith perform contents m).result = .error fault) :
    Agrees (r.dispatchAllWith perform contents (m :: rest)) r.lookup
      (r.lookup.dispatchAllWith (plain r.lookup) contents (m :: rest)) := by
  rw [dispatchAllWith, Lookup.dispatchAllWith, ← hm.effect]
  simp only [Dispatched.effect, herror]
  exact ⟨rfl, hm.lookup⟩

end Steps

section Plugins

variable {perform : Resolver → Act → Dispatched} {plain : Lookup → Act → Effect}
  (hperform : PerformsAs perform plain)

include hperform

/-- Applying a mutation has the effect that the lookup of the resolver says, given a mutator or
not, if this is so of what plug-ins do. -/
theorem agrees_withPlugins :
    (∀ (r : Resolver) (mutator : Mutator) (contents : String) (m : Mutation),
      Agrees (r.mutateWith perform mutator contents m) r.lookup
        (r.lookup.mutateWith (plain r.lookup) mutator contents m)) ∧
    (∀ (r : Resolver) (contents : String) (ms : List Mutation),
      Agrees (r.dispatchAllWith perform contents ms) r.lookup
        (r.lookup.dispatchAllWith (plain r.lookup) contents ms)) ∧
    ∀ (r : Resolver) (contents : String) (m : Mutation),
      Agrees (r.dispatchWith perform contents m) r.lookup
        (r.lookup.dispatchWith (plain r.lookup) contents m) := by
  -- One case for each way through the three functions.
  refine mutateWith.mutual_induct perform
    (fun r mutator contents m => Agrees (r.mutateWith perform mutator contents m) r.lookup
      (r.lookup.mutateWith (plain r.lookup) mutator contents m))
    (fun r contents ms => Agrees (r.dispatchAllWith perform contents ms) r.lookup
      (r.lookup.dispatchAllWith (plain r.lookup) contents ms))
    (fun r contents m => Agrees (r.dispatchWith perform contents m) r.lookup
      (r.lookup.dispatchWith (plain r.lookup) contents m))
    ?multiple ?plugin ?simple ?nil ?consOk ?consError ?found ?missing
  case multiple =>
    intro r contents range children h
    rw [mutateWith, Lookup.mutateWith]
    exact h
  case plugin =>
    intro r contents p m
    rw [mutateWith, Lookup.mutateWith]
    exact hperform r _ (p.pure contents m)
  case simple =>
    intro r contents mutator m hmultiple hplugin
    rw [mutateWith.eq_3 _ r mutator contents m hplugin hmultiple,
      Lookup.mutateWith.eq_3 _ _ mutator contents m hplugin hmultiple]
    exact ⟨rfl, rfl⟩
  case nil =>
    intro r contents
    rw [dispatchAllWith, Lookup.dispatchAllWith]
    exact ⟨rfl, rfl⟩
  case consOk => exact fun r contents m rest text hok hm hrest => agrees_cons_ok hm hok hrest
  case consError => exact fun r contents m rest fault herror hm => agrees_cons_error hm herror
  case found => exact fun r contents m mutator r' log hfound h => agrees_found hfound h
  case missing => exact fun r contents m r' log hmissing => agrees_missing hmissing

/-- A request that is not about the cache is answered as the lookup of the resolver says. -/
theorem agrees_answer (r : Resolver) {request : Request} (h : request.asksCache = false) :
    r.lookup.answer (plain r.lookup) request
        = ((r.answer perform request).1, Log.skipped (r.answer perform request).2.2) ∧
      (r.answer perform request).2.1.lookup = r.lookup := by
  obtain ⟨hmutate, -, hdispatch⟩ := agrees_withPlugins hperform
  cases request with
  | isCached tag => cases h
  | dispatch contents m =>
    have hagrees := hdispatch r contents m
    rw [answer, Lookup.answer, ← hagrees.effect]
    exact ⟨rfl, hagrees.lookup⟩
  | find tag => exact ⟨congrArg _ (r.skipped_resolve tag).symm, r.lookup_resolve tag⟩
  | apply tag contents m =>
    have hlookup := r.lookup_resolve tag
    have hskipped := r.skipped_resolve tag
    have hfind : r.lookup tag = (r.resolve tag).1 := rfl
    rw [answer, Lookup.answer, hfind]
    rcases hresolve : r.resolve tag with ⟨found, r', log⟩
    rw [hresolve] at hlookup hskipped
    cases found with
    | none => exact ⟨congrArg _ hskipped.symm, hlookup⟩
    | some mutator =>
      have hagrees := hmutate r' mutator contents m
      rw [hlookup] at hagrees
      simp only [← hagrees.effect, Log.skipped_append, hskipped, List.nil_append]
      exact ⟨rfl, hagrees.lookup⟩

/-- A plug-in that does not go by the cache gets on with a resolver as with its lookup. -/
theorem agrees_follow {a : Act} (ha : a.IgnoresCache) (r : Resolver) :
    Agrees (r.follow perform a) r.lookup (r.lookup.follow (plain r.lookup) a) := by
  induction ha generalizing r with
  | done result => exact ⟨rfl, rfl⟩
  | @ask request next hcache hnext ih =>
    rw [follow, Lookup.follow]
    cases hrequest : request.asksCache with
    | true =>
      -- What the cache says makes no difference to what comes next.
      cases request with
      | isCached tag =>
        have hsame : next (r.isCached tag) = next false := hcache rfl _ _
        simp only [answer, Lookup.answer, hsame, List.nil_append]
        exact ih false r
      | dispatch _ _ | apply _ _ _ | find _ => cases hrequest
    | false =>
      obtain ⟨hanswer, hlookup⟩ := agrees_answer hperform r hrequest
      rw [hanswer]
      rcases hasked : r.answer perform request with ⟨_ | a, r', log⟩
      · rw [hasked] at hlookup
        exact ⟨rfl, hlookup⟩
      · rw [hasked] at hlookup
        have hagrees := ih a r'
        rw [hlookup] at hagrees
        simp only [← hagrees.effect]
        refine ⟨?_, hagrees.lookup⟩
        simp only [Dispatched.effect, Log.skipped_append]

end Plugins

/-- Plug-ins have the effect that the lookup of the resolver says, at whatever depth. -/
theorem performsAs_perform (depth : Nat) :
    PerformsAs (perform depth) (fun find => find.perform depth) := by
  induction depth with
  | zero => exact fun r a _ => ⟨rfl, rfl⟩
  | succ depth ih => exact fun r a ha => agrees_follow ih ha r

variable (r : Resolver) (contents : String)

/-- Applying a mutation has the effect that the lookup of the resolver says. -/
theorem agrees_dispatch (m : Mutation) :
    Agrees (r.dispatch contents m) r.lookup (r.lookup.dispatch contents m) :=
  (agrees_withPlugins (performsAs_perform r.depth)).2.2 r contents m

theorem agrees_dispatchAll (ms : List Mutation) :
    Agrees (r.dispatchAll contents ms) r.lookup (r.lookup.dispatchAll contents ms) :=
  (agrees_withPlugins (performsAs_perform r.depth)).2.1 r contents ms

theorem result_dispatch (m : Mutation) :
    (r.dispatch contents m).result = (r.lookup.dispatch contents m).result :=
  congrArg Effect.result (r.agrees_dispatch contents m).effect

end Resolver

end EditWaves
