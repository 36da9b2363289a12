import EditWaves.Proofs.Resolver.History

/-!
# The lookups in the course of a dispatch

All that a dispatch does to a resolver it does by looking up tags: that of the mutation, those
of the children of a `multiple`, and those for which a plug-in asks.  A `Course` is a sequence
of such lookups, with what they leave and what they report.

* `visits`: the lookups of a dispatch, in order.
* `course_withPlugins`: a dispatch runs the course of its visits, if plug-ins do.
* `course_follow`: plug-ins do, one request after another.
* `course_dispatch`, from both by induction on the depth.
-/

namespace EditWaves.Resolver

/-! ## Visits -/

/-- A lookup that is made in the course of a dispatch. -/
inductive Visit where
  /-- A mutation is dispatched. -/
  | dispatch (resolver : Resolver) (contents : String) (m : Mutation)
  /-- A plug-in asks for the mutator of a tag. -/
  | find (resolver : Resolver) (tag : String)

namespace Visit

/-- The resolver that is asked. -/
def resolver : Visit → Resolver
  | dispatch r _ _ => r
  | find r _ => r

/-- The tag that is looked up. -/
def tag : Visit → String
  | dispatch _ _ m => m.tag
  | find _ tag => tag

/-- The lookup. -/
def event (v : Visit) : Event := .lookup v.tag

end Visit

section Visits

variable (perform : Resolver → Act → Dispatched) (inside : Resolver → Act → List Visit)

mutual

/-- The visits of applying a mutation with a given mutator; those of a plug-in are `inside`. -/
def visitsWithin (r : Resolver) (mutator : Mutator) (contents : String) (m : Mutation) :
    List Visit :=
  match mutator, m with
  | .multiple, .multiple _ children => visitsAllWith r contents (Mutation.lastToFirst children)
  | .plugin p, m => inside r (p.act contents m)
  | _, _ => []
termination_by (m.weight, 1)
decreasing_by
  apply Prod.Lex.left
  simp [Mutation.weight, Mutation.weights_lastToFirst]

/-- The visits of a dispatch. -/
def visitsWith (r : Resolver) (contents : String) (m : Mutation) : List Visit :=
  .dispatch r contents m ::
    match r.resolve m.tag with
    | (some mutator, r, _) => visitsWithin r mutator contents m
    | (none, _, _) => []
termination_by (m.weight, 2)

/-- The visits of applying mutations one after another, up to the first fault. -/
def visitsAllWith (r : Resolver) (contents : String) (ms : List Mutation) : List Visit :=
  match ms with
  | [] => []
  | m :: rest =>
    visitsWith r contents m ++
      match (r.dispatchWith perform contents m).result with
      | .ok text => visitsAllWith (r.dispatchWith perform contents m).resolver text rest
      | .error _ => []
termination_by (Mutation.weights ms, 3)
decreasing_by
  · simp only [Mutation.weights]
    rcases Nat.eq_zero_or_pos (Mutation.weights rest) with h0 | h0
    · rw [h0, Nat.add_zero]
      exact Prod.Lex.right _ (by omega)
    · exact Prod.Lex.left _ _ (by omega)
  · apply Prod.Lex.left
    have := m.weight_pos
    simp only [Mutation.weights]
    omega

end

/-- The visits of answering a request. -/
def visitsAsked (r : Resolver) : Request → List Visit
  | .dispatch contents m => visitsWith perform inside r contents m
  | .apply tag contents m =>
    .find r tag ::
      match r.resolve tag with
      | (some mutator, r, _) => visitsWithin perform inside r mutator contents m
      | (none, _, _) => []
  | .find tag => [.find r tag]
  | .isCached _ => []

/-- The visits of a plug-in until it is done. -/
def visitsFollowing (r : Resolver) : Act → List Visit
  | .done _ => []
  | .ask request next =>
    visitsAsked perform inside r request ++
      match r.answer perform request with
      | (some a, r, _) => visitsFollowing r (next a)
      | (none, _, _) => []

end Visits

/-- The visits of a plug-in where there is room for some more of them inside one another. -/
def visitsPerforming : Nat → Resolver → Act → List Visit
  | 0, _, _ => []
  | depth + 1, r, a => visitsFollowing (perform depth) (visitsPerforming depth) r a

/-- The visits of a dispatch. -/
def visits (r : Resolver) : String → Mutation → List Visit :=
  visitsWith (perform r.depth) (visitsPerforming r.depth) r

/-- The visits of applying mutations one after another. -/
def visitsAll (r : Resolver) : String → List Mutation → List Visit :=
  visitsAllWith (perform r.depth) (visitsPerforming r.depth) r

/-! ## Courses -/

/-- Some visits, one after another, lead from one resolver to another and report a log. -/
inductive Course : Resolver → Resolver → Log → List Visit → Prop where
  | nil (r : Resolver) : Course r r [] []
  | found {r after : Resolver} {m : Mutation} {mutator : Mutator} {log : Log}
      (h : r.resolve m.tag = (some mutator, after, log)) (contents : String) :
      Course r after log [.dispatch r contents m]
  | missing {r after : Resolver} {m : Mutation} {log : Log}
      (h : r.resolve m.tag = (none, after, log)) (contents : String) :
      Course r after (log ++ [.unknown m]) [.dispatch r contents m]
  | find {r after : Resolver} {tag : String} {found : Option Mutator} {log : Log}
      (h : r.resolve tag = (found, after, log)) : Course r after log [.find r tag]
  | append {r middle after : Resolver} {log more : Log} {visits later : List Visit}
      (first : Course r middle log visits) (second : Course middle after more later) :
      Course r after (log ++ more) (visits ++ later)

section Plugins

variable {perform : Resolver → Act → Dispatched} {inside : Resolver → Act → List Visit}
  (hperform : ∀ r a, Course r (perform r a).resolver (perform r a).log (inside r a))

include hperform

/-- Applying mutations runs the course of the visits, if plug-ins do. -/
theorem course_withPlugins :
    (∀ (r : Resolver) (mutator : Mutator) (contents : String) (m : Mutation),
      Course r (r.mutateWith perform mutator contents m).resolver
        (r.mutateWith perform mutator contents m).log
        (visitsWithin perform inside r mutator contents m)) ∧
    (∀ (r : Resolver) (contents : String) (ms : List Mutation),
      Course r (r.dispatchAllWith perform contents ms).resolver
        (r.dispatchAllWith perform contents ms).log
        (visitsAllWith perform inside r contents ms)) ∧
    ∀ (r : Resolver) (contents : String) (m : Mutation),
      Course r (r.dispatchWith perform contents m).resolver
        (r.dispatchWith perform contents m).log (visitsWith perform inside r contents m) := by
  -- One case for each way through the three functions.
  refine mutateWith.mutual_induct perform
    (fun r mutator contents m => Course r (r.mutateWith perform mutator contents m).resolver
      (r.mutateWith perform mutator contents m).log
      (visitsWithin perform inside r mutator contents m))
    (fun r contents ms => Course r (r.dispatchAllWith perform contents ms).resolver
      (r.dispatchAllWith perform contents ms).log (visitsAllWith perform inside r contents ms))
    (fun r contents m => Course r (r.dispatchWith perform contents m).resolver
      (r.dispatchWith perform contents m).log (visitsWith perform inside r contents m))
    ?multiple ?plugin ?simple ?nil ?consOk ?consError ?found ?missing
  case multiple =>
    intro r contents range children h
    rw [mutateWith, visitsWithin]
    exact h
  case plugin =>
    intro r contents p m
    rw [mutateWith, visitsWithin]
    exact hperform r (p.act contents m)
  case simple =>
    intro r contents mutator m hmultiple hplugin
    rw [mutateWith.eq_3 _ r mutator contents m hplugin hmultiple,
      visitsWithin.eq_3 _ _ r mutator contents m hplugin hmultiple]
    exact .nil r
  case nil =>
    intro r contents
    rw [dispatchAllWith, visitsAllWith]
    exact .nil r
  case consOk =>
    intro r contents m rest d text hok hm hrest
    change (r.dispatchWith perform contents m).result = .ok text at hok
    rw [dispatchAllWith, visitsAllWith]
    simp only [hok]
    exact hm.append hrest
  case consError =>
    intro r contents m rest d fault herror hm
    change (r.dispatchWith perform contents m).result = .error fault at herror
    rw [dispatchAllWith, visitsAllWith]
    simp only [herror, List.append_nil]
    exact hm
  case found =>
    intro r contents m mutator r' log hfound h
    rw [dispatchWith, visitsWith, hfound]
    exact (Course.found hfound contents).append h
  case missing =>
    intro r contents m r' log hmissing
    rw [dispatchWith, visitsWith, hmissing]
    exact .missing hmissing contents

theorem course_answer (r : Resolver) (request : Request) :
    Course r (r.answer perform request).2.1 (r.answer perform request).2.2
      (visitsAsked perform inside r request) := by
  obtain ⟨hmutate, -, hdispatch⟩ := course_withPlugins hperform
  cases request with
  | dispatch contents m => exact hdispatch r contents m
  | find tag => exact .find rfl
  | isCached tag => exact .nil r
  | apply tag contents m =>
    rw [answer, visitsAsked]
    rcases hresolve : r.resolve tag with ⟨_ | mutator, r', log⟩
    · exact .find hresolve
    · exact (Course.find hresolve).append (hmutate r' mutator contents m)

theorem course_follow (r : Resolver) (a : Act) :
    Course r (r.follow perform a).resolver (r.follow perform a).log
      (visitsFollowing perform inside r a) := by
  induction a generalizing r with
  | done result => exact .nil r
  | ask request next ih =>
    have hasked := course_answer hperform r request
    rw [follow, visitsFollowing]
    rcases hanswer : r.answer perform request with ⟨_ | a, r', log⟩
    · rw [hanswer] at hasked
      simpa using hasked
    · rw [hanswer] at hasked
      exact hasked.append (ih a r')

end Plugins

theorem course_perform (depth : Nat) (r : Resolver) (a : Act) :
    Course r (perform depth r a).resolver (perform depth r a).log
      (visitsPerforming depth r a) := by
  induction depth generalizing r a with
  | zero => exact .nil r
  | succ depth ih => exact course_follow ih r a

/-- A dispatch runs the course of its visits. -/
theorem course_dispatch (r : Resolver) (contents : String) (m : Mutation) :
    Course r (r.dispatch contents m).resolver (r.dispatch contents m).log (r.visits contents m) :=
  (course_withPlugins (course_perform r.depth)).2.2 r contents m

theorem course_dispatchAll (r : Resolver) (contents : String) (ms : List Mutation) :
    Course r (r.dispatchAll contents ms).resolver (r.dispatchAll contents ms).log
      (r.visitsAll contents ms) :=
  (course_withPlugins (course_perform r.depth)).2.1 r contents ms

end EditWaves.Resolver
