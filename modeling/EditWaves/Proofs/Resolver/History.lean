import Mathlib.Data.List.Induction
import EditWaves.Proofs.Resolver.Lookup

/-!
# What a resolver has found in the course of its history

Whatever a resolver is used for, all that happens to it is that tags are looked up and that
mutators are registered (`Event`).  What its cache holds can be said from this history and the
searchers alone: for each tag the mutator that the first successful lookup found (`FirstFound`).

* `Finds.search`: a search asks the searchers in order, up to the first that knows the tag.
* `resolve_search`: a lookup of a tag that has not been found yet is a search.
* `get?_cache_iff_firstFound`: the cache in terms of the history.
* `get?_cache_afterAll`: a tag that has been found keeps its mutator, whatever is registered.
* `count_found_reports`: a tag that has been found was reported once.
-/

namespace EditWaves

/-! ## Searches -/

/-- What a search for a tag comes to, and how many searchers it asks: all of them if none knows
the tag, and otherwise those up to the first that does. -/
inductive Finds (tag : String) : List Searcher → Option Mutator → Nat → Prop where
  | nothing {searchers : List Searcher} (h : ∀ s ∈ searchers, s.find? tag = none) :
      Finds tag searchers none searchers.length
  | mutator {front back : List Searcher} {s : Searcher} {k : Mutator}
      (hfront : ∀ x ∈ front, x.find? tag = none) (hs : s.find? tag = some k) :
      Finds tag (front ++ s :: back) (some k) (front.length + 1)

/-- The counts of the searchers after the first `n` of them have been asked once more. -/
def askFirst (n : Nat) (counts : List Nat) : List Nat :=
  (counts.take n).map (· + 1) ++ counts.drop n

theorem askFirst_length {n : Nat} {counts : List Nat} (h : counts.length = n) :
    askFirst n counts = counts.map (· + 1) := by
  rw [askFirst, ← h, List.take_length, List.drop_length, List.append_nil]

theorem askFirst_succ_append {front back : List Nat} {n count : Nat} (h : front.length = n) :
    askFirst (n + 1) (front ++ count :: back)
      = front.map (· + 1) ++ (count + 1) :: back := by
  have hsplit : front ++ count :: back = (front ++ [count]) ++ back :=
    List.append_cons front count back
  have hlength : (front ++ [count]).length = n + 1 := by rw [List.length_append, h]; rfl
  rw [askFirst, hsplit, ← hlength, List.take_left, List.drop_left, List.map_append,
    List.append_assoc]
  rfl

/-- A searcher that has been asked. -/
def Shelf.ask (s : Shelf) : Shelf := { s with asked := s.asked + 1 }

theorem searchShelves_nothing {tag : String} {shelves : List Shelf}
    (h : ∀ s ∈ shelves, s.searcher.find? tag = none) :
    searchShelves tag shelves = (none, shelves.map Shelf.ask) := by
  induction shelves with
  | nil => rfl
  | cons s rest ih =>
    obtain ⟨hs, hrest⟩ := List.forall_mem_cons.1 h
    rw [searchShelves, hs, ih hrest]
    rfl

theorem searchShelves_mutator {tag : String} {front back : List Shelf} {s : Shelf} {k : Mutator}
    (hfront : ∀ x ∈ front, x.searcher.find? tag = none) (hs : s.searcher.find? tag = some k) :
    searchShelves tag (front ++ s :: back) = (some k, front.map Shelf.ask ++ s.ask :: back) := by
  induction front with
  | nil =>
    rw [List.nil_append, searchShelves, hs]
    rfl
  | cons x rest ih =>
    obtain ⟨hx, hrest⟩ := List.forall_mem_cons.1 hfront
    rw [List.cons_append, searchShelves, hx, ih hrest]
    rfl

namespace Finds

variable {tag : String}

/-- A search asks each searcher up to where it ends once, and no other. -/
theorem search {shelves : List Shelf} {found : Option Mutator} {n : Nat}
    (h : Finds tag (shelves.map Shelf.searcher) found n) :
    (searchShelves tag shelves).1 = found ∧
      (searchShelves tag shelves).2.map Shelf.asked = askFirst n (shelves.map Shelf.asked) := by
  generalize hsearchers : shelves.map Shelf.searcher = searchers at h
  cases h with
  | nothing hall =>
    subst hsearchers
    have hnone : ∀ s ∈ shelves, s.searcher.find? tag = none :=
      fun s hs => hall _ (List.mem_map_of_mem hs)
    rw [searchShelves_nothing hnone, askFirst_length (by simp), List.map_map, List.map_map]
    exact ⟨rfl, rfl⟩
  | @mutator front back s k hfront hs =>
    obtain ⟨front, tail, rfl, rfl, htail⟩ := List.map_eq_append_iff.1 hsearchers
    obtain ⟨s, back, rfl, rfl, rfl⟩ := List.map_eq_cons_iff.1 htail
    have hnone : ∀ x ∈ front, x.searcher.find? tag = none :=
      fun x hx => hfront _ (List.mem_map_of_mem hx)
    rw [searchShelves_mutator hnone hs, List.length_map, List.map_append, List.map_cons,
      List.map_append, List.map_cons, askFirst_succ_append (List.length_map _),
      List.map_map, List.map_map]
    exact ⟨rfl, rfl⟩

theorem find?_eq_none {searchers : List Searcher} {n : Nat} (h : Finds tag searchers none n) :
    ∀ s ∈ searchers, s.find? tag = none := by
  cases h with
  | nothing hall => exact hall

end Finds

/-- A search comes to something. -/
theorem exists_finds (tag : String) (searchers : List Searcher) :
    ∃ found n, Finds tag searchers found n := by
  induction searchers with
  | nil => exact ⟨none, 0, .nothing (List.forall_mem_nil _)⟩
  | cons s rest ih =>
    cases hs : s.find? tag with
    | some k => exact ⟨some k, _, .mutator (List.forall_mem_nil _) hs⟩
    | none =>
      obtain ⟨found, n, hrest⟩ := ih
      cases hrest with
      | nothing hall => exact ⟨none, _, .nothing (List.forall_mem_cons.2 ⟨hs, hall⟩)⟩
      | mutator hfront hx =>
        exact ⟨_, _, .mutator (List.forall_mem_cons.2 ⟨hs, hfront⟩) hx⟩

/-- The tags that a log says were found. -/
def Log.found (log : Log) : List String :=
  log.filterMap (fun e => match e with
    | .resolved tag => some tag
    | _ => none)

@[simp] theorem Log.found_append (l₁ l₂ : Log) :
    Log.found (l₁ ++ l₂) = Log.found l₁ ++ Log.found l₂ :=
  List.filterMap_append

/-! ## Histories -/

namespace Resolver

/-- What can happen to a resolver. -/
inductive Event where
  /-- A tag is looked up. -/
  | lookup (tag : String)
  /-- A mutator is put into the searcher with a number. -/
  | register (index : Nat) (tag : String) (mutator : Mutator)

/-- The searchers after an event: lookups leave them alone. -/
def searchersAfter (searchers : List Searcher) : Event → List Searcher
  | .lookup _ => searchers
  | .register index tag mutator => searchers.modify index (Searcher.register tag mutator)

/-- The searchers after a history. -/
def searchersAfterAll (searchers : List Searcher) (history : List Event) : List Searcher :=
  history.foldl searchersAfter searchers

/-- The mutator that the first successful lookup of a tag in a history found: before it no
lookup of the tag found any. -/
inductive FirstFound (searchers : List Searcher) (tag : String) : List Event → Mutator → Prop where
  | found {past rest : List Event} {k : Mutator} {n : Nat}
      (hfound : Finds tag (searchersAfterAll searchers past) (some k) n)
      (hfirst : ∀ before after, past = before ++ .lookup tag :: after →
        ∀ s ∈ searchersAfterAll searchers before, s.find? tag = none) :
      FirstFound searchers tag (past ++ .lookup tag :: rest) k

section FirstFound

variable {searchers : List Searcher} {tag : String} {history : List Event} {k : Mutator}

/-- What has been found first stays what was found first. -/
theorem FirstFound.append (h : FirstFound searchers tag history k) (later : List Event) :
    FirstFound searchers tag (history ++ later) k := by
  cases h with
  | found hfound hfirst =>
    rw [List.append_assoc]
    exact .found hfound hfirst

/-- As long as a tag has not been found, no lookup of it has found anything. -/
theorem find?_eq_none_of_not_firstFound (h : ∀ k, ¬ FirstFound searchers tag history k)
    (before after : List Event) (hsplit : history = before ++ .lookup tag :: after) :
    ∀ s ∈ searchersAfterAll searchers before, s.find? tag = none := by
  -- by induction on how many events come before the lookup: all earlier lookups found nothing,
  -- so this one would be the first
  induction hlen : before.length using Nat.strongRecOn generalizing before after with
  | ind m ih =>
    obtain ⟨found, n, hfinds⟩ := exists_finds tag (searchersAfterAll searchers before)
    cases found with
    | none => exact hfinds.find?_eq_none
    | some k =>
      refine absurd (hsplit ▸ FirstFound.found hfinds ?_) (h k)
      intro before' after' hbefore
      have hlt : before'.length < m := by
        rw [← hlen, hbefore, List.length_append, List.length_cons]
        omega
      refine ih _ hlt before' (after' ++ .lookup tag :: after) ?_ rfl
      rw [hsplit, hbefore, List.append_assoc, List.cons_append]

end FirstFound

/-! ## The cache -/

/-- A resolver after an event. -/
def after (r : Resolver) : Event → Resolver
  | .lookup tag => (r.resolve tag).2.1
  | .register index tag mutator => r.register index tag mutator

/-- A resolver after a history. -/
def afterAll (r : Resolver) (history : List Event) : Resolver := history.foldl after r

/-- The searchers of a resolver. -/
def searchers (r : Resolver) : List Searcher := r.shelves.map Shelf.searcher

/-- How often each searcher of a resolver has been asked. -/
def asked (r : Resolver) : List Nat := r.shelves.map Shelf.asked

theorem afterAll_append (r : Resolver) (past later : List Event) :
    r.afterAll (past ++ later) = (r.afterAll past).afterAll later :=
  List.foldl_append

theorem searchers_ofSearchers (searchers : List Searcher) (depth : Nat) :
    (ofSearchers searchers depth).searchers = searchers := by
  rw [Resolver.searchers, ofSearchers, List.map_map]
  exact List.map_id _

theorem searchers_resolve (r : Resolver) (tag : String) :
    (r.resolve tag).2.1.searchers = r.searchers := by
  have hsearchers := searchShelves_searchers tag r.shelves
  cases hcache : r.cache.get? tag with
  | some k => rw [resolve_cached hcache]
  | none =>
    rcases hsearch : searchShelves tag r.shelves with ⟨found, shelves⟩
    rw [hsearch] at hsearchers
    cases found with
    | none => rw [resolve_missing hcache hsearch]; exact hsearchers
    | some k => rw [resolve_found hcache hsearch]; exact hsearchers

theorem searchers_after (r : Resolver) (e : Event) :
    (r.after e).searchers = searchersAfter r.searchers e := by
  cases e with
  | lookup tag => exact r.searchers_resolve tag
  | register index tag mutator =>
    refine List.ext_getElem? ?_
    intro i
    simp only [after, register, searchers, searchersAfter, List.getElem?_map, List.getElem?_modify]
    cases r.shelves[i]? with
    | none => rfl
    | some s => by_cases hi : index = i <;> simp [hi]

/-- The searchers of a resolver change only by what is registered. -/
theorem searchers_afterAll (r : Resolver) (history : List Event) :
    (r.afterAll history).searchers = searchersAfterAll r.searchers history := by
  induction history generalizing r with
  | nil => rfl
  | cons e rest ih =>
    show ((r.after e).afterAll rest).searchers = _
    rw [ih, searchers_after]
    rfl

variable {r : Resolver} {tag : String} {k : Mutator}

/-- A lookup of a tag that is not in the cache is a search, and what it finds is cached and
reported. -/
theorem resolve_search {found : Option Mutator} {n : Nat} (hcache : r.cache.get? tag = none)
    (hfinds : Finds tag r.searchers found n) :
    (r.resolve tag).1 = found ∧ (r.resolve tag).2.1.cache.get? tag = found ∧
      (r.resolve tag).2.1.asked = askFirst n r.asked ∧
      (r.resolve tag).2.2 = (found.map (fun _ => Entry.resolved tag)).toList := by
  obtain ⟨hfound, hasked⟩ := hfinds.search
  rcases hsearch : searchShelves tag r.shelves with ⟨result, shelves⟩
  rw [hsearch] at hfound hasked
  obtain rfl : result = found := hfound
  cases result with
  | none =>
    rw [resolve_missing hcache hsearch]
    exact ⟨rfl, hcache, hasked, rfl⟩
  | some k =>
    rw [resolve_found hcache hsearch]
    exact ⟨rfl, by rw [Dict.get?_insert, if_pos rfl], hasked, rfl⟩

/-- A lookup changes the cache only under the tag that is looked up. -/
theorem get?_cache_resolve_of_ne {t : String} (hne : t ≠ tag) :
    (r.resolve t).2.1.cache.get? tag = r.cache.get? tag := by
  cases ht : r.cache.get? t with
  | some mutator => rw [resolve_cached ht]
  | none =>
    rcases hsearch : searchShelves t r.shelves with ⟨found, shelves⟩
    cases found with
    | none => rw [resolve_missing ht hsearch]
    | some mutator => rw [resolve_found ht hsearch, Dict.get?_insert, if_neg hne]

/-- A tag that is in the cache stays there, whatever happens. -/
theorem get?_cache_after (hcache : r.cache.get? tag = some k) (e : Event) :
    (r.after e).cache.get? tag = some k := by
  cases e with
  | register index t mutator => exact hcache
  | lookup t =>
    show (r.resolve t).2.1.cache.get? tag = some k
    by_cases ht : t = tag
    · rw [ht, resolve_cached hcache, hcache]
    · rw [get?_cache_resolve_of_ne ht, hcache]

theorem get?_cache_afterAll (hcache : r.cache.get? tag = some k) (later : List Event) :
    (r.afterAll later).cache.get? tag = some k := by
  induction later generalizing r with
  | nil => exact hcache
  | cons e rest ih => exact ih (get?_cache_after hcache e)

variable {searchers : List Searcher} {depth : Nat} {history : List Event}

theorem searchers_start (searchers : List Searcher) (depth : Nat) (history : List Event) :
    ((ofSearchers searchers depth).afterAll history).searchers
      = searchersAfterAll searchers history := by
  rw [searchers_afterAll, searchers_ofSearchers]

/-- A tag that no lookup has found is not in the cache. -/
theorem get?_cache_of_nothing_found (h : ∀ before after, history = before ++ .lookup tag :: after →
    ∀ s ∈ searchersAfterAll searchers before, s.find? tag = none) :
    ((ofSearchers searchers depth).afterAll history).cache.get? tag = none := by
  induction history using List.reverseRecOn with
  | nil => rfl
  | append_singleton history e ih =>
    have hpast : ((ofSearchers searchers depth).afterAll history).cache.get? tag = none := by
      refine ih (fun before after hsplit => h before (after ++ [e]) ?_)
      rw [hsplit, List.append_assoc, List.cons_append]
    rw [afterAll_append]
    show (((ofSearchers searchers depth).afterAll history).after e).cache.get? tag = none
    cases e with
    | register index t mutator => exact hpast
    | lookup t =>
      by_cases ht : t = tag
      · subst ht
        have hnone := h history [] rfl
        rw [← searchers_start] at hnone
        exact (resolve_search hpast (.nothing hnone)).2.1
      · exact (get?_cache_resolve_of_ne ht).trans hpast

/-- What the first successful lookup of a tag found is in the cache. -/
theorem get?_cache_of_firstFound (h : FirstFound searchers tag history k) :
    ((ofSearchers searchers depth).afterAll history).cache.get? tag = some k := by
  cases h with
  | @found past rest _ n hfound hfirst =>
    have hpast : ((ofSearchers searchers depth).afterAll past).cache.get? tag = none :=
      get?_cache_of_nothing_found hfirst
    rw [← searchers_start] at hfound
    rw [List.append_cons, afterAll_append, afterAll_append]
    exact get?_cache_afterAll (resolve_search hpast hfound).2.1 rest

/-- The cache holds for each tag what the first successful lookup of it found. -/
theorem get?_cache_iff_firstFound :
    ((ofSearchers searchers depth).afterAll history).cache.get? tag = some k ↔
      FirstFound searchers tag history k := by
  refine ⟨?_, get?_cache_of_firstFound⟩
  intro hcache
  by_cases h : ∃ k, FirstFound searchers tag history k
  · obtain ⟨k', hk'⟩ := h
    obtain rfl : k' = k := Option.some.inj ((get?_cache_of_firstFound hk').symm.trans hcache)
    exact hk'
  · have hnone : ((ofSearchers searchers depth).afterAll history).cache.get? tag = none :=
      get?_cache_of_nothing_found (find?_eq_none_of_not_firstFound (not_exists.1 h))
    rw [hnone] at hcache
    cases hcache

theorem get?_cache_of_not_firstFound (h : ∀ k, ¬ FirstFound searchers tag history k) :
    ((ofSearchers searchers depth).afterAll history).cache.get? tag = none :=
  get?_cache_of_nothing_found (find?_eq_none_of_not_firstFound h)

/-! ## Reports -/

/-- What is reported at an event. -/
def report (r : Resolver) : Event → Log
  | .lookup tag => (r.resolve tag).2.2
  | .register _ _ _ => []

/-- What is reported in the course of a history. -/
def reports (r : Resolver) : List Event → Log
  | [] => []
  | e :: rest => r.report e ++ reports (r.after e) rest

theorem reports_append (r : Resolver) (past later : List Event) :
    r.reports (past ++ later) = r.reports past ++ (r.afterAll past).reports later := by
  induction past generalizing r with
  | nil => rfl
  | cons e rest ih =>
    rw [List.cons_append, reports, ih, reports, List.append_assoc]
    rfl

/-- What goes into the cache is reported. -/
theorem count_found_report (r : Resolver) (tag : String) (e : Event) :
    (Log.found (r.report e)).count tag + (if r.isCached tag then 1 else 0)
      = if (r.after e).isCached tag then 1 else 0 := by
  cases e with
  | register index t mutator => exact Nat.zero_add _
  | lookup t =>
    show (Log.found (r.resolve t).2.2).count tag + _
      = if (r.resolve t).2.1.isCached tag then 1 else 0
    cases ht : r.cache.get? t with
    | some mutator =>
      rw [resolve_cached ht]
      exact Nat.zero_add _
    | none =>
      obtain ⟨found, n, hfinds⟩ := exists_finds t r.searchers
      obtain ⟨-, hcache, -, hreport⟩ := resolve_search ht hfinds
      rw [hreport, isCached, isCached, Dict.contains, Dict.contains]
      by_cases hne : t = tag
      · subst hne
        rw [ht, hcache]
        cases found <;> simp [Log.found]
      · rw [get?_cache_resolve_of_ne hne]
        cases found <;> simp [Log.found, hne]

/-- A tag is reported once, when it is found, and not again. -/
theorem count_found_reports (r : Resolver) (tag : String) (history : List Event) :
    (Log.found (r.reports history)).count tag + (if r.isCached tag then 1 else 0)
      = if (r.afterAll history).isCached tag then 1 else 0 := by
  induction history generalizing r with
  | nil => exact Nat.zero_add _
  | cons e rest ih =>
    have hreport := count_found_report r tag e
    have hrest := ih (r.after e)
    rw [reports, Log.found_append, List.count_append]
    show _ = if ((r.after e).afterAll rest).isCached tag then 1 else 0
    omega

end Resolver

end EditWaves
