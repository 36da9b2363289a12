import EditWaves.Proofs.Resolver.Course

/-!
# What a resolver has found before does not show

A resolver that has been used already, also for mutations that failed half way, applies mutations
as one does that asks its searchers again for every single tag (`Lookup.among`), call after call.

* `events_dispatch`: all that a listener is told of a dispatch is which mutations were skipped.
* `Reachable.lookup_eq`: a resolver stands for its searchers in every state it can get into.
* `dispatches_uncached`: the outcomes of a sequence of dispatches.
-/

namespace EditWaves

/-- Asks searchers in order, and again each time. -/
def Lookup.among (searchers : List Searcher) (depth : Nat) : Lookup :=
  ⟨fun tag => searchers.findSome? (fun s => s.find? tag), depth⟩

/-! ## What is told of a dispatch -/

/-- A log of lookups and of mutations that were skipped. -/
def Log.OfLookups (log : Log) : Prop :=
  ∀ e ∈ log, (∃ tag, e = .resolved tag) ∨ ∃ m, e = .unknown m

namespace Log.OfLookups

theorem nil : Log.OfLookups [] := List.forall_mem_nil _

theorem append {l₁ l₂ : Log} (h₁ : Log.OfLookups l₁) (h₂ : Log.OfLookups l₂) :
    Log.OfLookups (l₁ ++ l₂) :=
  List.forall_mem_append.2 ⟨h₁, h₂⟩

/-- A listener is told of the mutations that were skipped and of nothing else. -/
theorem events_eq {log : Log} (h : Log.OfLookups log) :
    Log.events log = (Log.skipped log).map Entry.unknown := by
  induction log with
  | nil => rfl
  | cons e rest ih =>
    obtain ⟨he, hrest⟩ := List.forall_mem_cons.1 h
    have hevents := ih hrest
    rw [Log.events, Log.skipped] at hevents
    obtain ⟨tag, rfl⟩ | ⟨m, rfl⟩ := he
    · simpa [Log.events, Log.skipped, Entry.isNote] using hevents
    · simpa [Log.events, Log.skipped, Entry.isNote] using hevents

end Log.OfLookups

namespace Resolver

theorem ofLookups_resolve (r : Resolver) (tag : String) : Log.OfLookups (r.resolve tag).2.2 := by
  cases hcache : r.cache.get? tag with
  | some mutator =>
    rw [resolve_cached hcache]
    exact .nil
  | none =>
    rcases hsearch : searchShelves tag r.shelves with ⟨found, shelves⟩
    cases found with
    | none =>
      rw [resolve_missing hcache hsearch]
      exact .nil
    | some mutator =>
      rw [resolve_found hcache hsearch]
      exact List.forall_mem_singleton.2 (.inl ⟨tag, rfl⟩)

/-- Nothing else is reported in the course of a dispatch. -/
theorem Course.ofLookups {r after : Resolver} {log : Log} {visits : List Visit}
    (h : Course r after log visits) : Log.OfLookups log := by
  have hresolve : ∀ {r after : Resolver} {tag : String} {found : Option Mutator} {log : Log},
      r.resolve tag = (found, after, log) → Log.OfLookups log := by
    intro r after tag found log h
    have hlog := r.ofLookups_resolve tag
    rwa [h] at hlog
  induction h with
  | nil r => exact .nil
  | found h contents => exact hresolve h
  | @missing r after m log h contents =>
    exact (hresolve h).append (List.forall_mem_singleton.2 (.inr ⟨m, rfl⟩))
  | find h => exact hresolve h
  | append _ _ ih₁ ih₂ => exact ih₁.append ih₂

theorem ofLookups_dispatch (r : Resolver) (contents : String) (m : Mutation) :
    Log.OfLookups (r.dispatch contents m).log :=
  (r.course_dispatch contents m).ofLookups

/-- All that a listener is told of a dispatch is which mutations were skipped. -/
theorem events_dispatch (r : Resolver) (contents : String) (m : Mutation) :
    Log.events (r.dispatch contents m).log
      = (r.lookup.dispatch contents m).skipped.map Entry.unknown := by
  rw [(r.ofLookups_dispatch contents m).events_eq, ← (r.agrees_dispatch contents m).effect]
  rfl

/-! ## Resolvers that have been used -/

/-- The states that a resolver gets into by looking up tags and applying mutations. -/
inductive Reachable (searchers : List Searcher) (depth : Nat) : Resolver → Prop where
  | start : Reachable searchers depth (ofSearchers searchers depth)
  | resolve {r : Resolver} (h : Reachable searchers depth r) (tag : String) :
      Reachable searchers depth (r.resolve tag).2.1
  | dispatch {r : Resolver} (h : Reachable searchers depth r) (contents : String) (m : Mutation) :
      Reachable searchers depth (r.dispatch contents m).resolver

theorem lookup_ofSearchers (searchers : List Searcher) (depth : Nat) :
    (ofSearchers searchers depth).lookup = Lookup.among searchers depth := by
  refine Lookup.ext (funext fun tag => ?_) rfl
  have hsearchers := searchers_ofSearchers searchers depth
  rw [Resolver.searchers] at hsearchers
  rw [Resolver.lookup_eq, hsearchers]
  rfl

/-- Whatever a resolver has found, it stands for its searchers. -/
theorem Reachable.lookup_eq {searchers : List Searcher} {depth : Nat} {r : Resolver}
    (h : Reachable searchers depth r) : r.lookup = Lookup.among searchers depth := by
  induction h with
  | start => exact lookup_ofSearchers searchers depth
  | @resolve r _ tag ih => rw [r.lookup_resolve tag, ih]
  | @dispatch r _ contents m ih => rw [(r.agrees_dispatch contents m).lookup, ih]

/-- What comes of mutations that are applied one after another, each to contents of its own: the
new contents or a fault, and what a listener is told. -/
def outcomes (r : Resolver) :
    List (String × Mutation) → List (Except MutationError String × Log)
  | [] => []
  | (contents, m) :: rest =>
    let d := r.dispatch contents m
    (d.result, Log.events d.log) :: outcomes d.resolver rest

/-- A resolver in any state it can get into does with each mutation of a sequence what one does
that keeps nothing and asks its searchers each time.  This is so of what plug-ins have applied as
well, whatever they ask for, since they are pure (`Plugin.pure`). -/
theorem dispatches_uncached {searchers : List Searcher} {depth : Nat} {r : Resolver}
    (hr : Reachable searchers depth r) (calls : List (String × Mutation)) :
    r.outcomes calls = calls.map (fun call =>
      let e := (Lookup.among searchers depth).dispatch call.1 call.2
      (e.result, e.skipped.map Entry.unknown)) := by
  induction calls generalizing r with
  | nil => rfl
  | cons call rest ih =>
    obtain ⟨contents, m⟩ := call
    have hresult : (r.dispatch contents m).result
        = ((Lookup.among searchers depth).dispatch contents m).result := by
      rw [r.result_dispatch, hr.lookup_eq]
    have hevents : Log.events (r.dispatch contents m).log
        = ((Lookup.among searchers depth).dispatch contents m).skipped.map Entry.unknown := by
      rw [r.events_dispatch, hr.lookup_eq]
    rw [outcomes, List.map_cons, hresult, hevents, ih (hr.dispatch contents m)]

/-- A mutation that failed half way has left tags in the cache; the next ones are applied, skipped
and refused as if it had not, also those that a plug-in dispatches. -/
theorem dispatches_uncached_after_fault :
    let upper (start stop : Nat) : Mutation := .custom (.span start stop) "upper" .empty
    let shout : Mutation := .custom (.point 3) "text-shout" .empty
    let relay : Plugin := {
      act contents _ := .ask (.isCached "upper") (fun _ =>
        .ask (.dispatch contents shout) (fun result => match result with
          | .ok text => .ask (.dispatch text (upper 1 3)) .done
          | .error fault => .done (.error fault)))
      pure _ _ := .ask (fun _ _ _ => rfl) (fun _ => .ask nofun (fun result =>
        match result with
          | .ok _ => .ask nofun .done
          | .error fault => .done (.error fault))) }
    let plugins : String → Option Mutator := fun tag =>
      if tag = "upper" then some .uppercase else if tag = "relay" then some (.plugin relay) else none
    let searchers : List Searcher := [.registry Searcher.builtins, .lookup plugins]
    let disguised : Mutation := .custom (.point 0) "text-delete" .empty
    let broken : Mutation := .multiple (.point 0) [disguised, upper 4 5]
    let start : Resolver := ofSearchers searchers 2
    let r : Resolver := (start.dispatch "abcde" broken).resolver
    r.cache.keys = ["multiple", "text-delete", "upper"] ∧ Reachable searchers 2 r ∧
      r.outcomes [("abc", .multiple (.point 0) [upper 0 2, shout]), ("abc", disguised),
          ("xyz", .custom (.point 0) "relay" .empty)]
        = [(.ok "ABc", [.unknown shout]),
           (.error (.unexpectedKind "text-delete" "text-delete"), []),
           (.ok "xYZ", [.unknown shout])] := by
  intro upper shout relay plugins searchers disguised broken start r
  have hr : Reachable searchers 2 r := Reachable.start.dispatch "abcde" broken
  refine ⟨?_, hr, ?_⟩
  · have hsorted : Mutation.lastToFirst [disguised, upper 4 5] = [upper 4 5, disguised] := rfl
    let grouped := (start.resolve "multiple").2.1
    let raised := (grouped.resolve "upper").2.1
    have hgroup : start.resolve Tag.multiple = (some .multiple, grouped, [.resolved "multiple"]) :=
      rfl
    have hupper : grouped.resolve "upper" = (some .uppercase, raised, [.resolved "upper"]) := rfl
    have hdelete : raised.resolve "text-delete"
        = (some .delete, raised.after (.lookup "text-delete"), [.resolved "text-delete"]) := rfl
    have hdone : ∀ r result, perform start.depth r (.done result) = ⟨result, r, []⟩ :=
      fun _ _ => rfl
    have hlast : r = raised.after (.lookup "text-delete") := by
      simp only [r, dispatch, dispatchWith, Mutation.tag, hgroup, mutateWith, broken, hsorted,
        dispatchAllWith, upper, disguised, hupper, hdelete, Mutator.uppercase, Plugin.alone, hdone]
      rfl
    rw [hlast]
    rfl
  · have hsorted : Mutation.lastToFirst [upper 0 2, shout] = [shout, upper 0 2] := rfl
    have hmultiple : Lookup.among searchers 2 Tag.multiple = some .multiple := rfl
    have hupper : Lookup.among searchers 2 "upper" = some .uppercase := rfl
    have hshout : Lookup.among searchers 2 "text-shout" = none := rfl
    have hdelete : Lookup.among searchers 2 "text-delete" = some .delete := rfl
    have hrelay : Lookup.among searchers 2 "relay" = some (.plugin relay) := rfl
    have hperform : (Lookup.among searchers 2).perform (Lookup.among searchers 2).depth
        = (Lookup.among searchers 2).follow ((Lookup.among searchers 2).perform 1) := rfl
    have hinside : (Lookup.among searchers 2).perform 1
        = (Lookup.among searchers 2).follow ((Lookup.among searchers 2).perform 0) := rfl
    rw [dispatches_uncached hr]
    simp only [List.map_cons, List.map_nil, Lookup.dispatch, Lookup.dispatchWith, Mutation.tag,
      hmultiple, hdelete, Lookup.mutateWith, hsorted, Lookup.dispatchAllWith, upper, shout,
      disguised, hupper, hshout, hrelay, Mutator.uppercase, Plugin.alone, hperform, hinside, relay,
      Lookup.follow, Lookup.answer, Request.heard]
    rfl

/-- What `Plugin.pure` rules out: an act that leaves the contents as they are, but goes by what has
been found before, tells a resolver that has been used from one that has not. -/
example :
    let shout : Mutation := .custom (.point 0) "text-shout" .empty
    let act : Act := .ask (.isCached "text-delete") (fun cached =>
      if cached then .ask (.dispatch "" shout) .done else .done (.ok ""))
    (perform 1 .builtins act).log = [] ∧
      (perform 1 (builtins.resolve "text-delete").2.1 act).log = [.unknown shout] := by
  refine ⟨rfl, ?_⟩
  cbv

end Resolver

end EditWaves
