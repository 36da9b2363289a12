import EditWaves.Proofs.Resolver.Course

/-!
# A tag is resolved once and for all

However a resolver is used, the first lookup of a tag that finds a mutator settles what the tag
means from then on.  Before that each lookup asks all searchers in vain; after it none is asked,
and each dispatch of the tag, also one from inside a `multiple` or a plug-in, uses the mutator that
was found, whatever has been registered in the meantime.

* `Course.comesTo`: a course does to the resolver what the lookups of its visits do.
* `Course.chained`: each visit finds the resolver that those before it have left.
* `comesTo_useAll`: any sequence of uses comes to a history.
* `resolution_frozen`: what holds of every tag after every history.
-/

namespace EditWaves.Resolver

/-! ## Courses as histories -/

/-- The lookups of some visits. -/
def lookups (visits : List Visit) : List Event := visits.map Visit.event

/-- Each of some visits finds the resolver as the lookups of those before it have left it. -/
def Chained (r : Resolver) : List Visit → Prop
  | [] => True
  | v :: rest => v.resolver = r ∧ Chained (r.after v.event) rest

theorem Chained.append {r : Resolver} {first second : List Visit} (h₁ : Chained r first)
    (h₂ : Chained (r.afterAll (lookups first)) second) : Chained r (first ++ second) := by
  induction first generalizing r with
  | nil => exact h₂
  | cons v rest ih => exact ⟨h₁.1, ih h₁.2 h₂⟩

theorem Chained.resolver_eq {r : Resolver} {before after : List Visit} {v : Visit}
    (h : Chained r (before ++ v :: after)) : v.resolver = r.afterAll (lookups before) := by
  induction before generalizing r with
  | nil => exact h.1
  | cons u rest ih => exact ih h.2

/-- An outcome leaves the resolver as a history does, and the same tags are reported as found. -/
structure ComesTo (r after : Resolver) (log : Log) (history : List Event) : Prop where
  resolver : after = r.afterAll history
  found : Log.found log = Log.found (r.reports history)

namespace ComesTo

variable {r after last : Resolver} {log more : Log} {past later : List Event}

theorem nil (r : Resolver) : ComesTo r r [] [] := ⟨rfl, rfl⟩

theorem append (h₁ : ComesTo r after log past) (h₂ : ComesTo after last more later) :
    ComesTo r last (log ++ more) (past ++ later) := by
  obtain ⟨rfl, hfound⟩ := h₁
  refine ⟨?_, ?_⟩
  · rw [afterAll_append]
    exact h₂.resolver
  · rw [Log.found_append, reports_append, Log.found_append, hfound, h₂.found]

theorem lookup (r : Resolver) (tag : String) :
    ComesTo r (r.resolve tag).2.1 (r.resolve tag).2.2 [.lookup tag] :=
  ⟨rfl, by rw [reports, reports, List.append_nil, report]⟩

end ComesTo

namespace Course

variable {r after : Resolver} {log : Log} {visits : List Visit}

/-- A course does to a resolver what its lookups do, and reports the same tags as found. -/
theorem comesTo (h : Course r after log visits) : ComesTo r after log (lookups visits) := by
  induction h with
  | nil r => exact .nil r
  | @found r after m mutator log h contents =>
    have hlookup := ComesTo.lookup r m.tag
    rwa [h] at hlookup
  | @missing r after m log h contents =>
    have hlookup := ComesTo.lookup r m.tag
    rw [h] at hlookup
    refine ⟨hlookup.resolver, ?_⟩
    rw [Log.found_append]
    exact (List.append_nil _).trans hlookup.found
  | @find r after tag found log h =>
    have hlookup := ComesTo.lookup r tag
    rwa [h] at hlookup
  | append _ _ ih₁ ih₂ =>
    rw [lookups, List.map_append]
    exact ih₁.append ih₂

theorem chained (h : Course r after log visits) : Chained r visits := by
  induction h with
  | nil r => trivial
  | found h contents | missing h contents | find h => exact ⟨rfl, trivial⟩
  | append first _ ih₁ ih₂ =>
    refine ih₁.append ?_
    rwa [← first.comesTo.resolver]

end Course

/-! ## Uses -/

/-- One thing that a resolver is used for. -/
inductive Use where
  | resolve (tag : String)
  | isCached (tag : String)
  | dispatch (contents : String) (m : Mutation)
  | register (index : Nat) (tag : String) (mutator : Mutator)

/-- A resolver after a use, and what was reported. -/
def use (r : Resolver) : Use → Resolver × Log
  | .resolve tag => (r.resolve tag).2
  | .isCached _ => (r, [])
  | .dispatch contents m => ((r.dispatch contents m).resolver, (r.dispatch contents m).log)
  | .register index tag mutator => (r.register index tag mutator, [])

/-- A resolver after several uses, and what was reported. -/
def useAll (r : Resolver) : List Use → Resolver × Log
  | [] => (r, [])
  | u :: rest => ((useAll (r.use u).1 rest).1, (r.use u).2 ++ (useAll (r.use u).1 rest).2)

/-- What happens in the course of a use: a dispatch makes the lookups of all its visits. -/
def eventsOf (r : Resolver) : Use → List Event
  | .resolve tag => [.lookup tag]
  | .isCached _ => []
  | .dispatch contents m => lookups (r.visits contents m)
  | .register index tag mutator => [.register index tag mutator]

/-- What happens in the course of several uses. -/
def history (r : Resolver) : List Use → List Event
  | [] => []
  | u :: rest => r.eventsOf u ++ history (r.use u).1 rest

theorem comesTo_use (r : Resolver) (u : Use) :
    ComesTo r (r.use u).1 (r.use u).2 (r.eventsOf u) := by
  cases u with
  | resolve tag => exact .lookup r tag
  | isCached tag => exact .nil r
  | dispatch contents m => exact (r.course_dispatch contents m).comesTo
  | register index tag mutator => exact ⟨rfl, rfl⟩

/-- What some uses do to a resolver is what happens in the course of them. -/
theorem comesTo_useAll (r : Resolver) (uses : List Use) :
    ComesTo r (r.useAll uses).1 (r.useAll uses).2 (r.history uses) := by
  induction uses generalizing r with
  | nil => exact .nil r
  | cons u rest ih => exact (r.comesTo_use u).append (ih (r.use u).1)

/-! ## Frozen tags -/

/-- What a tag means at the end of a history that began with nothing found. -/
structure Frozen (searchers : List Searcher) (depth : Nat) (tag : String) (history : List Event) :
    Prop where
  /-- Only a lookup that finds a mutator makes a tag known. -/
  cached : ((ofSearchers searchers depth).afterAll history).isCached tag = true ↔
    ∃ k, FirstFound searchers tag history k
  /-- A tag that has not been found is searched for, as the searchers are now: each is asked once
  up to the first that knows it, and that one's mutator is kept and reported; if none knows it,
  all have been asked and the tag stays unknown. -/
  searches : (∀ k, ¬ FirstFound searchers tag history k) →
    ∀ found n, Finds tag (searchersAfterAll searchers history) found n →
      let r := (ofSearchers searchers depth).afterAll history
      (r.resolve tag).1 = found ∧ (r.resolve tag).2.1.cache.get? tag = found ∧
        (r.resolve tag).2.1.asked = askFirst n r.asked ∧
        (r.resolve tag).2.2 = (found.map (fun _ => Entry.resolved tag)).toList
  /-- A tag that has been found keeps its mutator, whatever happens later: looking it up asks
  nobody, changes nothing and reports nothing, and dispatching it uses that mutator. -/
  keeps : ∀ k, FirstFound searchers tag history k → ∀ later,
    let r := (ofSearchers searchers depth).afterAll (history ++ later)
    r.isCached tag = true ∧ r.resolve tag = (some k, r, []) ∧
      ∀ contents m, m.tag = tag → r.dispatch contents m = r.mutate k contents m
  /-- A tag has been reported once if it has been found, and otherwise not at all. -/
  reported : (Log.found ((ofSearchers searchers depth).reports history)).count tag
    = if ((ofSearchers searchers depth).afterAll history).isCached tag then 1 else 0

theorem dispatch_cached {r : Resolver} {m : Mutation} {k : Mutator}
    (hcache : r.cache.get? m.tag = some k) (contents : String) :
    r.dispatch contents m = r.mutate k contents m := by
  rw [dispatch, dispatchWith, resolve_cached hcache]
  rfl

theorem isCached_iff {r : Resolver} {tag : String} :
    r.isCached tag = true ↔ ∃ k, r.cache.get? tag = some k :=
  Option.isSome_iff_exists

theorem frozen_history (searchers : List Searcher) (depth : Nat) (tag : String)
    (history : List Event) : Frozen searchers depth tag history where
  cached := isCached_iff.trans (exists_congr (fun _ => get?_cache_iff_firstFound))
  searches := by
    intro hnone found n hfinds
    rw [← searchers_start] at hfinds
    exact resolve_search (get?_cache_of_not_firstFound hnone) hfinds
  keeps := by
    intro k hk later
    have hcache : ((ofSearchers searchers depth).afterAll (history ++ later)).cache.get? tag
        = some k := get?_cache_of_firstFound (hk.append later)
    refine ⟨isCached_iff.2 ⟨k, hcache⟩, resolve_cached hcache, ?_⟩
    rintro contents m rfl
    exact dispatch_cached hcache contents
  reported := count_found_reports (ofSearchers searchers depth) tag history

/-- A tag is resolved once and for all.  Any sequence of uses amounts to a history, each lookup
that is made in the course of a dispatch happens at the end of a history, too, and every tag is
frozen at the end of every history. -/
theorem resolution_frozen (searchers : List Searcher) (depth : Nat) (tag : String) :
    let start := ofSearchers searchers depth
    (∀ uses, ComesTo start (start.useAll uses).1 (start.useAll uses).2 (start.history uses)) ∧
      (∀ uses contents m before v after,
        (start.useAll uses).1.visits contents m = before ++ v :: after →
          v.resolver = start.afterAll (start.history uses ++ lookups before)) ∧
      ∀ history, Frozen searchers depth tag history := by
  intro start
  have huses : ∀ uses, ComesTo start _ _ _ := start.comesTo_useAll
  refine ⟨huses, ?_, frozen_history searchers depth tag⟩
  intro uses contents m before v after hvisits
  have hchained := (Resolver.course_dispatch (start.useAll uses).1 contents m).chained
  rw [hvisits] at hchained
  rw [afterAll_append, ← (huses uses).resolver]
  exact hchained.resolver_eq

/-- A tag that is dispatched before it is registered is looked for in vain; what is found once it
has been registered stays, also if another mutator is registered in front of it. -/
theorem resolution_frozen_replaced :
    let searchers : List Searcher := [.registry .empty, .registry Searcher.builtins]
    let start : Resolver := ofSearchers searchers 1
    let shout : Mutation := .custom (.point 0) "text-shout" .empty
    let group : Mutation := .multiple (.point 0) [shout]
    let uses : List Use := [.dispatch "ab" group, .register 1 "text-shout" .uppercase,
      .resolve "text-shout"]
    let grouped : Resolver := start.afterAll [.lookup "multiple"]
    let history : List Event := [.lookup "multiple", .lookup "text-shout",
      .register 1 "text-shout" .uppercase, .lookup "text-shout"]
    let replaced : Resolver := start.afterAll (history ++ [.register 0 "text-shout" .delete])
    start.visits "ab" group = [.dispatch start "ab" group, .dispatch grouped "ab" shout] ∧
      grouped = start.afterAll (start.history [] ++ lookups [.dispatch start "ab" group]) ∧
      (grouped.resolve "text-shout").1 = none ∧
      start.history uses = history ∧ (start.useAll uses).1 = start.afterAll history ∧
      FirstFound searchers "text-shout" history .uppercase ∧
      replaced.dispatch "ab" shout = replaced.mutate .uppercase "ab" shout := by
  intro searchers start shout group uses grouped history replaced
  obtain ⟨huses, hwithin, hfrozen⟩ := resolution_frozen searchers 1 "text-shout"
  have hgroup : start.resolve group.tag = (some .multiple, grouped, [.resolved "multiple"]) := rfl
  have hshout : grouped.resolve shout.tag = (none, grouped.after (.lookup "text-shout"), []) := rfl
  have hvisits : start.visits "ab" group
      = [.dispatch start "ab" group, .dispatch grouped "ab" shout] := by
    have hsorted : Mutation.lastToFirst [shout] = [shout] := rfl
    simp only [visits, visitsWith, hgroup, visitsWithin, group, hsorted, visitsAllWith, hshout,
      dispatchWith, List.append_nil]
  have hhistory : start.history uses = history := by
    have hfirst : start.eventsOf (.dispatch "ab" group)
        = [.lookup "multiple", .lookup "text-shout"] := by
      rw [eventsOf, hvisits]
      rfl
    rw [Resolver.history, hfirst]
    rfl
  have hmissing : ∀ k, ¬ FirstFound searchers "text-shout" [.lookup "multiple"] k := by
    intro k hk
    have hcache : grouped.cache.get? "text-shout" = some k := get?_cache_of_firstFound hk
    cases hcache
  have hnothing : Finds "text-shout" searchers none 2 :=
    .nothing (List.forall_mem_cons.2 ⟨rfl, List.forall_mem_singleton.2 rfl⟩)
  have hfirst : FirstFound searchers "text-shout" history .uppercase :=
    get?_cache_iff_firstFound.1
      (show (start.afterAll history).cache.get? "text-shout" = some .uppercase from rfl)
  refine ⟨hvisits, ?_, ?_, hhistory, hhistory ▸ (huses uses).resolver, hfirst, ?_⟩
  · exact hwithin [] "ab" group [.dispatch start "ab" group] _ [] hvisits
  · exact ((hfrozen _).searches hmissing none 2 hnothing).1
  · exact ((hfrozen history).keeps _ hfirst _).2.2 "ab" shout rfl

end EditWaves.Resolver
