import EditWaves.Proofs.Mutation.Place
import EditWaves.Proofs.Resolver.Sequence
import EditWaves.Proofs.Resolver.Transparency

/-!
# Children that no mutator knows

A child of a `multiple` whose tag has no mutator is skipped.  Nothing but the report shows that it
was there: without it, at whatever depth it stood, the mutation does the same.

* `Mutation.prune` takes these children out, `Mutation.pruned` lists them as they would be met.
* `leaves_prune`, `pruned_eq_filter`: taking them out divides the leaves of a mutation.
* `result_dispatchAll_filter`, `skips_dispatchAll`: what mutations without a mutator do in a
  sequence, and how many of them are met.
* `AppliesNothing`: no other mutator than that of `multiple` has anything else applied.
* `dispatch_prune`: a mutation and what is left of it.
-/

namespace EditWaves

/-- Whether the tag of a mutation has a mutator. -/
def Lookup.knows (find : Lookup) (m : Mutation) : Bool := (find m.tag).isSome

/-! ## Mutators that have nothing else applied -/

/-- Whether a request is to apply a mutation. -/
def Request.applies : Request → Bool
  | dispatch _ _ | apply _ _ _ => true
  | find _ | isCached _ => false

/-- Whatever is answered, no mutation is asked to be applied. -/
inductive Act.AppliesNothing : Act → Prop where
  | done (result : Except MutationError String) : AppliesNothing (.done result)
  | ask {request : Request} {next : request.Answer → Act} (hrequest : request.applies = false)
      (hnext : ∀ a, AppliesNothing (next a)) : AppliesNothing (.ask request next)

/-- A mutator that hands nothing back to the resolver, unless it is the built-in one that applies
children. -/
def Mutator.AppliesNothing : Mutator → Prop
  | .plugin p => ∀ contents m, (p.act contents m).AppliesNothing
  | _ => True

/-- All mutators that are found hand nothing back. -/
def Lookup.AppliesNothing (find : Lookup) : Prop :=
  ∀ tag mutator, find tag = some mutator → mutator.AppliesNothing

namespace Mutation

mutual

/-- A mutation without those of its children, at any depth, whose tags have no mutator. -/
def prune (find : Lookup) : Mutation → Mutation
  | .multiple range children => .multiple range (pruneAll find children)
  | m => m

/-- Those of some mutations whose tags have mutators, each of them pruned. -/
def pruneAll (find : Lookup) : List Mutation → List Mutation
  | [] => []
  | m :: rest =>
    if find.knows m then prune find m :: pruneAll find rest else pruneAll find rest

end

mutual

/-- The children that pruning a mutation takes out, in the order of application: those of each
`multiple` last to first, and what is inside one of them before the next. -/
def pruned (find : Lookup) : Mutation → List Mutation
  | .multiple _ children => prunedAll find (lastToFirst children)
  | _ => []
termination_by m => (m.weight, 1)
decreasing_by
  apply Prod.Lex.left
  simp [weight, weights_lastToFirst]

/-- What pruning some mutations takes out. -/
def prunedAll (find : Lookup) : List Mutation → List Mutation
  | [] => []
  | m :: rest => (if find.knows m then pruned find m else [m]) ++ prunedAll find rest
termination_by ms => (weights ms, 2)
decreasing_by
  · simp only [weights]
    rcases Nat.eq_zero_or_pos (weights rest) with h0 | h0
    · rw [h0, Nat.add_zero]
      exact Prod.Lex.right _ (by omega)
    · exact Prod.Lex.left _ _ (by omega)
  · apply Prod.Lex.left
    have hpos := m.weight_pos
    simp only [weights]
    omega

end

variable (find : Lookup)

theorem pruneAll_eq_map (ms : List Mutation) :
    pruneAll find ms = (ms.filter find.knows).map (prune find) := by
  induction ms with
  | nil => rfl
  | cons m rest ih =>
    rw [pruneAll, List.filter_cons]
    split
    · rw [List.map_cons, ih]
    · exact ih

theorem prunedAll_eq_flatMap (ms : List Mutation) : prunedAll find ms
    = ms.flatMap (fun m => if find.knows m then pruned find m else [m]) := by
  induction ms with
  | nil => rw [prunedAll, List.flatMap_nil]
  | cons m rest ih => rw [prunedAll, ih, List.flatMap_cons]

theorem prune_of_isLeaf {m : Mutation} (hleaf : m.isLeaf = true) : prune find m = m := by
  cases m with
  | multiple range children => cases hleaf
  | _ => rfl

theorem pruned_of_isLeaf {m : Mutation} (hleaf : m.isLeaf = true) : pruned find m = [] := by
  rw [pruned]
  rintro range children rfl
  cases hleaf

/-- A pruned mutation stands where it stood. -/
theorem keepsPlaces_prune : Order.KeepsPlaces (prune find) := by
  refine .of_range ?_
  rintro (_ | _ | _ | _ | _ | _) <;> rfl

theorem lastToFirst_pruneAll (ms : List Mutation) :
    lastToFirst (pruneAll find ms) = ((lastToFirst ms).filter find.knows).map (prune find) := by
  have hmap : lastToFirst ((ms.filter find.knows).map (prune find))
      = (lastToFirst (ms.filter find.knows)).map (prune find) :=
    Order.lastToFirst_map (keepsPlaces_prune find) _
  have hfilter : lastToFirst (ms.filter find.knows) = (lastToFirst ms).filter find.knows :=
    Order.sortDownBy_filter _ _ _
  rw [pruneAll_eq_map, hmap, hfilter]

/-! ## The leaves of a pruned mutation -/

theorem flatMap_filter_of_eq_nil {α β : Type} {p : α → Bool} {f : α → List β} {l : List α}
    (h : ∀ a ∈ l, p a = false → f a = []) : (l.filter p).flatMap f = l.flatMap f := by
  induction l with
  | nil => rfl
  | cons a l ih =>
    obtain ⟨ha, hl⟩ := List.forall_mem_cons.1 h
    cases hp : p a with
    | true => rw [List.filter_cons_of_pos hp, List.flatMap_cons, List.flatMap_cons, ih hl]
    | false =>
      rw [List.filter_cons_of_neg (by simp [hp]), List.flatMap_cons, ha hp, ih hl, List.nil_append]

variable {find} (hmultiple : find Tag.multiple = some .multiple)

include hmultiple

/-- A mutation that no mutator knows has no children. -/
theorem isLeaf_of_not_knows {m : Mutation} (hm : find.knows m = false) : m.isLeaf = true := by
  cases m with
  | multiple range children =>
    rw [Lookup.knows, tag, hmultiple] at hm
    cases hm
  | _ => rfl

/-- Pruning leaves those leaves that have a mutator. -/
theorem leaves_prune {m : Mutation} (hm : find.knows m = true) :
    (prune find m).leaves = m.leaves.filter find.knows := by
  induction m using induction_children with
  | leaf m hleaf =>
    rw [prune_of_isLeaf find hleaf, leaves_of_isLeaf hleaf, List.filter_cons_of_pos hm,
      List.filter_nil]
  | multiple range children ih =>
    have hkept : ∀ c ∈ (lastToFirst children).filter find.knows,
        (prune find c).leaves = c.leaves.filter find.knows := by
      intro c hc
      obtain ⟨hmem, hknown⟩ := List.mem_filter.1 hc
      exact ih c ((perm_lastToFirst children).mem_iff.1 hmem) hknown
    have hgone : ∀ c ∈ lastToFirst children, find.knows c = false →
        c.leaves.filter find.knows = [] := by
      intro c _ hc
      rw [leaves_of_isLeaf (isLeaf_of_not_knows hmultiple hc),
        List.filter_cons_of_neg (by simp [hc]), List.filter_nil]
    calc (prune find (.multiple range children)).leaves
        = ((lastToFirst children).filter find.knows).flatMap (fun c => (prune find c).leaves) := by
          rw [prune, leaves_multiple, lastToFirst_pruneAll, List.flatMap_map]
      _ = ((lastToFirst children).filter find.knows).flatMap
            (fun c => c.leaves.filter find.knows) := List.flatMap_congr hkept
      _ = (lastToFirst children).flatMap (fun c => c.leaves.filter find.knows) :=
          flatMap_filter_of_eq_nil hgone
      _ = (Mutation.multiple range children).leaves.filter find.knows := by
          rw [leaves_multiple, List.filter_flatMap]

/-- What is taken out are the leaves that have no mutator. -/
theorem pruned_eq_filter {m : Mutation} (hm : find.knows m = true) :
    pruned find m = m.leaves.filter (fun k => !find.knows k) := by
  induction m using induction_children with
  | leaf m hleaf =>
    rw [pruned_of_isLeaf find hleaf, leaves_of_isLeaf hleaf,
      List.filter_cons_of_neg (by simp [hm]), List.filter_nil]
  | multiple range children ih =>
    rw [pruned, prunedAll_eq_flatMap, leaves_multiple, List.filter_flatMap]
    refine List.flatMap_congr ?_
    intro c hc
    cases hknown : find.knows c with
    | true => exact ih c ((perm_lastToFirst children).mem_iff.1 hc) hknown
    | false =>
      rw [leaves_of_isLeaf (isLeaf_of_not_knows hmultiple hknown),
        List.filter_cons_of_pos (by simp [hknown]), List.filter_nil]
      rfl

end Mutation

/-! ## Mutations without a mutator in a sequence -/

namespace Lookup

variable {find : Lookup} {contents : String}

/-- A mutation without a mutator is skipped. -/
theorem dispatch_of_not_knows {m : Mutation} (hm : find.knows m = false) (contents : String) :
    find.dispatch contents m = ⟨.ok contents, [m]⟩ := by
  have hnone : find m.tag = none := by simpa [knows] using hm
  rw [dispatch_eq, hnone]

/-- A plug-in that has nothing applied skips nothing. -/
theorem skipped_perform {a : Act} (ha : a.AppliesNothing) (depth : Nat) :
    (find.perform depth a).skipped = [] := by
  cases depth with
  | zero => rfl
  | succ depth =>
    rw [perform]
    induction ha with
    | done result => rfl
    | @ask request next hrequest hnext ih =>
      rw [follow]
      cases request with
      | dispatch _ _ | apply _ _ _ => cases hrequest
      | find tag => exact ih (find tag).isSome
      | isCached tag => exact ih false

/-- A leaf that has a mutator skips nothing. -/
theorem skipped_dispatch_of_knows (hfind : find.AppliesNothing) {m : Mutation}
    (hleaf : m.isLeaf = true) (hm : find.knows m = true) (contents : String) :
    (find.dispatch contents m).skipped = [] := by
  obtain ⟨mutator, hmutator⟩ := Option.isSome_iff_exists.1 hm
  rw [dispatch_eq, hmutator]
  cases mutator with
  | plugin p =>
    simp only [mutate_plugin]
    exact skipped_perform (hfind m.tag _ hmutator contents m) find.depth
  | delete | insert | replace | swap | multiple =>
    simp only
    rw [mutate_leaf rfl hleaf]

/-- Mutations without a mutator do not show in the result of a sequence. -/
theorem result_dispatchAll_filter (find : Lookup) (contents : String) (ms : List Mutation) :
    (find.dispatchAll contents (ms.filter find.knows)).result
      = (find.dispatchAll contents ms).result := by
  induction ms generalizing contents with
  | nil => rfl
  | cons m rest ih =>
    cases hm : find.knows m with
    | false =>
      rw [List.filter_cons_of_neg (by simp [hm]), dispatchAll_cons, dispatch_of_not_knows hm]
      exact ih contents
    | true =>
      rw [List.filter_cons_of_pos hm, dispatchAll_cons, dispatchAll_cons]
      rcases find.dispatch contents m with ⟨fault | text, skipped⟩
      · rfl
      · exact ih text

/-- The mutations that an effect skips are the first ones of a list, and all of them if there was
no fault. -/
structure Skips (e : Effect) (ms : List Mutation) : Prop where
  front : e.skipped <+: ms
  all : ∀ text, e.result = .ok text → e.skipped = ms

/-- Of leaves one after another those are skipped that have no mutator, up to the first fault. -/
theorem skips_dispatchAll (hfind : find.AppliesNothing) {ms : List Mutation}
    (hms : ∀ m ∈ ms, m.isLeaf = true) (contents : String) :
    Skips (find.dispatchAll contents ms) (ms.filter (fun m => !find.knows m)) := by
  induction ms generalizing contents with
  | nil =>
    rw [dispatchAll_nil]
    exact ⟨List.prefix_refl _, fun _ _ => rfl⟩
  | cons m rest ih =>
    obtain ⟨hleaf, hrest⟩ := List.forall_mem_cons.1 hms
    rw [dispatchAll_cons]
    cases hm : find.knows m with
    | false =>
      obtain ⟨hfront, hall⟩ := ih hrest contents
      rw [dispatch_of_not_knows hm, List.filter_cons_of_pos (by simp [hm])]
      refine ⟨(List.cons_prefix_cons).2 ⟨rfl, hfront⟩, ?_⟩
      intro text htext
      exact congrArg (m :: ·) (hall text htext)
    | true =>
      have hskipped := skipped_dispatch_of_knows hfind hleaf hm contents
      rw [List.filter_cons_of_neg (by simp [hm])]
      rcases hd : find.dispatch contents m with ⟨fault | text, skipped⟩
      · rw [hd] at hskipped
        obtain rfl : skipped = [] := hskipped
        refine ⟨List.nil_prefix, ?_⟩
        rintro text ⟨⟩
      · rw [hd] at hskipped
        obtain rfl : skipped = [] := hskipped
        exact ih hrest text

section Pruned

variable {m : Mutation} (hmultiple : find Tag.multiple = some .multiple)
  (hm : find.knows m = true)

include hmultiple hm

theorem result_dispatch_prune (contents : String) :
    (find.dispatch contents (m.prune find)).result = (find.dispatch contents m).result := by
  rw [← dispatchAll_leaves contents hmultiple, ← dispatchAll_leaves contents hmultiple,
    Mutation.leaves_prune hmultiple hm, result_dispatchAll_filter]

/-- What a mutation skips is what is taken out of it. -/
theorem skips_dispatch (hfind : find.AppliesNothing) (contents : String) :
    Skips (find.dispatch contents m) (m.pruned find) := by
  rw [← dispatchAll_leaves contents hmultiple, Mutation.pruned_eq_filter hmultiple hm]
  exact skips_dispatchAll hfind (fun k hk => (Mutation.mem_leaves_iff.1 hk).2) contents

/-- A pruned mutation skips nothing. -/
theorem skipped_dispatch_prune (hfind : find.AppliesNothing) (contents : String) :
    (find.dispatch contents (m.prune find)).skipped = [] := by
  have hleaf : ∀ k ∈ m.leaves.filter find.knows, k.isLeaf = true :=
    fun k hk => (Mutation.mem_leaves_iff.1 (List.mem_of_mem_filter hk)).2
  have hnone : (m.leaves.filter find.knows).filter (fun k => !find.knows k) = [] := by
    simp [List.filter_filter]
  have hskips : Skips (find.dispatchAll contents (m.leaves.filter find.knows)) _ :=
    skips_dispatchAll hfind hleaf contents
  rw [hnone] at hskips
  rw [← dispatchAll_leaves contents hmultiple, Mutation.leaves_prune hmultiple hm]
  exact List.prefix_nil.1 hskips.front

end Pruned

end Lookup

/-- A mutation whose own tag has a mutator does the same without the children, at any depth, that
have none: whatever the contents, the new contents or the fault are the same.  A listener is told
of the children that were taken out, each once and in the order of application, when the mutation
is applied with them, and of a front of these if there is a fault; without them it is told
nothing.  What the resolvers have found before does not matter. -/
theorem Resolver.dispatch_prune {searchers : List Searcher} {depth : Nat} {r r' : Resolver}
    (hr : Reachable searchers depth r) (hr' : Reachable searchers depth r')
    (hmultiple : Lookup.among searchers depth Tag.multiple = some .multiple)
    (hfind : (Lookup.among searchers depth).AppliesNothing) {m : Mutation}
    (hm : (Lookup.among searchers depth).knows m = true) (contents : String) :
    let find := Lookup.among searchers depth
    let whole := r.dispatch contents m
    let left := r'.dispatch contents (m.prune find)
    left.result = whole.result ∧ Log.events left.log = [] ∧
      (∀ text, whole.result = .ok text →
        Log.events whole.log = (m.pruned find).map Entry.unknown) ∧
      Log.events whole.log <+: (m.pruned find).map Entry.unknown := by
  intro find whole left
  have hskips := Lookup.skips_dispatch hmultiple hm hfind contents
  have hwhole : whole.result = (find.dispatch contents m).result := by
    rw [r.result_dispatch, hr.lookup_eq]
  have hevents : Log.events whole.log
      = (find.dispatch contents m).skipped.map Entry.unknown := by
    rw [r.events_dispatch, hr.lookup_eq]
  refine ⟨?_, ?_, ?_, ?_⟩
  · rw [hwhole, r'.result_dispatch, hr'.lookup_eq]
    exact Lookup.result_dispatch_prune hmultiple hm contents
  · rw [r'.events_dispatch, hr'.lookup_eq, Lookup.skipped_dispatch_prune hmultiple hm hfind]
    rfl
  · intro text htext
    rw [hevents, hskips.all text (hwhole.symm.trans htext)]
  · rw [hevents]
    exact hskips.front.map Entry.unknown

/-- Unknown children at two depths of a mutation, which is applied once more without them. -/
theorem Resolver.dispatch_prune_nested :
    let searchers : List Searcher := [.registry Searcher.builtins]
    let find := Lookup.among searchers 0
    let shout : Mutation := .custom (.point 3) "text-shout" .empty
    let whisper : Mutation := .custom (.span 0 5) "text-whisper" .empty
    let m : Mutation := .multiple (.point 0)
      [.multiple (.point 2) [.insert (.point 1) "-", shout], .delete (.span 4 5), whisper]
    let r := ofSearchers searchers 0
    let r' := (r.dispatch "hello" m).resolver
    Reachable searchers 0 r ∧ Reachable searchers 0 r' ∧ find Tag.multiple = some .multiple ∧
      find.AppliesNothing ∧ find.knows m = true ∧ (r.dispatch "hello" m).result = .ok "h-ell" ∧
      m.prune find = .multiple (.point 0)
        [.multiple (.point 2) [.insert (.point 1) "-"], .delete (.span 4 5)] ∧
      (r'.dispatch "hello" (m.prune find)).result = .ok "h-ell" ∧
      Log.events (r.dispatch "hello" m).log = [.unknown whisper, .unknown shout] := by
  intro searchers find shout whisper m r r'
  have hr : Reachable searchers 0 r := .start
  have hr' : Reachable searchers 0 r' := hr.dispatch "hello" m
  have hmultiple : find Tag.multiple = some .multiple := rfl
  have hfind : find.AppliesNothing := by
    intro tag mutator htag
    have hget : Searcher.builtins.get? tag = some mutator := by
      simpa [find, searchers, Lookup.among, Searcher.find?] using htag
    have hbuiltin := Searcher.tag?_of_builtins hget
    cases mutator with
    | plugin p => cases hbuiltin
    | delete | insert | replace | swap | multiple => trivial
  have hm : find.knows m = true := rfl
  have houter : Mutation.lastToFirst [.multiple (.point 2) [.insert (.point 1) "-", shout],
      .delete (.span 4 5), whisper] = [.delete (.span 4 5), whisper,
        .multiple (.point 2) [.insert (.point 1) "-", shout]] := rfl
  have hinner : Mutation.lastToFirst [.insert (.point 1) "-", shout]
      = [shout, .insert (.point 1) "-"] := rfl
  have hresult : (r.dispatch "hello" m).result = .ok "h-ell" := by
    have hdelete : find Tag.delete = some .delete := rfl
    have hinsert : find Tag.insert = some .insert := rfl
    have hshout : find "text-shout" = none := rfl
    have hwhisper : find "text-whisper" = none := rfl
    rw [r.result_dispatch, hr.lookup_eq]
    simp only [find, Lookup.dispatch, Lookup.dispatchWith, Lookup.mutateWith,
      Lookup.dispatchAllWith, Mutation.tag, m, houter, hinner, hmultiple, hdelete, hinsert, shout,
      whisper, hshout, hwhisper]
    rfl
  have hpruned : m.pruned find = [whisper, shout] := by
    simp only [m, Mutation.pruned, houter, hinner, Mutation.prunedAll]
    rfl
  obtain ⟨hleft, -, hevents, -⟩ := dispatch_prune hr hr' hmultiple hfind hm "hello"
  refine ⟨hr, hr', hmultiple, hfind, hm, hresult, rfl, hleft.trans hresult, ?_⟩
  rw [hevents _ hresult, hpruned]
  rfl

end EditWaves
