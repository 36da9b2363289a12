import EditWaves.Resolver

/-!
# Room for plug-ins

The bound on how many plug-ins are at work inside one another stands for the stack.  A run in which
it is not reached does not depend on it: with more room the same is done, reported and found.

* `deepens_withPlugins`: this is so of applying mutations if it is so of what plug-ins do.
* `deepens_follow`: it is so of a plug-in as long as it is answered.
* `dispatch_of_room`, from both by induction on the bound.
-/

namespace EditWaves.Resolver

theorem heard_eq_none_iff {result : Except MutationError String} :
    Request.heard result = none ↔ result = .error .overflow := by
  constructor
  · intro h
    rcases result with fault | text
    · cases fault <;> first | rfl | cases h
    · cases h
  · rintro rfl
    rfl

/-- Where the one comes to an end with the room it has, the other does the same. -/
def Deepens (perform deeper : Resolver → Act → Dispatched) : Prop :=
  ∀ r a, (perform r a).result ≠ .error .overflow → deeper r a = perform r a

variable {perform deeper : Resolver → Act → Dispatched}

section Plugins

variable (hdeeper : Deepens perform deeper)

include hdeeper

/-- A fault for lack of room ends all that it happens in, so without one there was none inside. -/
theorem deepens_withPlugins :
    (∀ (r : Resolver) (mutator : Mutator) (contents : String) (m : Mutation),
      (r.mutateWith perform mutator contents m).result ≠ .error .overflow →
        r.mutateWith deeper mutator contents m = r.mutateWith perform mutator contents m) ∧
    (∀ (r : Resolver) (contents : String) (ms : List Mutation),
      (r.dispatchAllWith perform contents ms).result ≠ .error .overflow →
        r.dispatchAllWith deeper contents ms = r.dispatchAllWith perform contents ms) ∧
    ∀ (r : Resolver) (contents : String) (m : Mutation),
      (r.dispatchWith perform contents m).result ≠ .error .overflow →
        r.dispatchWith deeper contents m = r.dispatchWith perform contents m := by
  -- One case for each way through the three functions.
  refine mutateWith.mutual_induct perform
    (fun r mutator contents m =>
      (r.mutateWith perform mutator contents m).result ≠ .error .overflow →
        r.mutateWith deeper mutator contents m = r.mutateWith perform mutator contents m)
    (fun r contents ms => (r.dispatchAllWith perform contents ms).result ≠ .error .overflow →
      r.dispatchAllWith deeper contents ms = r.dispatchAllWith perform contents ms)
    (fun r contents m => (r.dispatchWith perform contents m).result ≠ .error .overflow →
      r.dispatchWith deeper contents m = r.dispatchWith perform contents m)
    ?multiple ?plugin ?simple ?nil ?consOk ?consError ?found ?missing
  case multiple =>
    intro r contents range children ih hroom
    rw [mutateWith] at hroom
    rw [mutateWith, mutateWith, ih hroom]
  case plugin =>
    intro r contents p m hroom
    rw [mutateWith] at hroom
    rw [mutateWith, mutateWith, hdeeper r _ hroom]
  case simple =>
    intro r contents mutator m hmultiple hplugin _
    rw [mutateWith.eq_3 _ r mutator contents m hplugin hmultiple,
      mutateWith.eq_3 _ r mutator contents m hplugin hmultiple]
  case nil =>
    intro r contents _
    rw [dispatchAllWith, dispatchAllWith]
  case consOk =>
    intro r contents m rest d text hok hm hrest hroom
    change (r.dispatchWith perform contents m).result = .ok text at hok
    have hsame := hm (by rw [hok]; exact nofun)
    rw [dispatchAllWith] at hroom
    simp only [hok] at hroom
    rw [dispatchAllWith, dispatchAllWith, hsame]
    simp only [hok, d, hrest hroom]
  case consError =>
    intro r contents m rest d fault herror hm hroom
    change (r.dispatchWith perform contents m).result = .error fault at herror
    rw [dispatchAllWith] at hroom
    simp only [herror] at hroom
    rw [dispatchAllWith, dispatchAllWith, hm (herror ▸ hroom)]
    simp only [herror]
  case found =>
    intro r contents m mutator r' log hfound ih hroom
    rw [dispatchWith, hfound] at hroom
    rw [dispatchWith, dispatchWith, hfound]
    simp only [ih hroom]
  case missing =>
    intro r contents m r' log hmissing _
    rw [dispatchWith, dispatchWith, hmissing]

/-- A request that is answered is answered in the same way. -/
theorem deepens_answer (r : Resolver) (request : Request)
    (hanswered : (r.answer perform request).1 ≠ none) :
    r.answer deeper request = r.answer perform request := by
  obtain ⟨hmutate, -, hdispatch⟩ := deepens_withPlugins hdeeper
  cases request with
  | find tag | isCached tag => rfl
  | dispatch contents m =>
    rw [answer, hdispatch r contents m (mt heard_eq_none_iff.2 hanswered)]
    rfl
  | apply tag contents m =>
    rw [answer] at hanswered
    rw [answer, answer]
    rcases hresolve : r.resolve tag with ⟨_ | mutator, r', log⟩
    · rfl
    · rw [hresolve] at hanswered
      have hroom : (r'.mutateWith perform mutator contents m).result ≠ .error .overflow := by
        intro hresult
        exact hanswered (congrArg (Option.map some) (heard_eq_none_iff.2 hresult))
      simp only [hmutate r' mutator contents m hroom]

theorem deepens_follow (r : Resolver) (a : Act)
    (hroom : (r.follow perform a).result ≠ .error .overflow) :
    r.follow deeper a = r.follow perform a := by
  induction a generalizing r with
  | done result => rfl
  | ask request next ih =>
    rw [follow] at hroom
    rw [follow, follow]
    rcases hanswer : r.answer perform request with ⟨_ | a, r', log⟩
    · rw [hanswer] at hroom
      exact absurd rfl hroom
    · rw [hanswer] at hroom
      have hsame := deepens_answer hdeeper r request (by rw [hanswer]; exact nofun)
      rw [hsame, hanswer]
      simp only [ih a r' hroom]

end Plugins

theorem deepens_perform_succ (depth : Nat) :
    Deepens (Resolver.perform depth) (Resolver.perform (depth + 1)) := by
  induction depth with
  | zero =>
    intro r a hroom
    exact absurd rfl hroom
  | succ depth ih => exact fun r a hroom => deepens_follow ih r a hroom

theorem deepens_perform {depth bound : Nat} (h : depth ≤ bound) :
    Deepens (Resolver.perform depth) (Resolver.perform bound) := by
  induction h with
  | refl => exact fun r a _ => rfl
  | @step bound _ ih =>
    intro r a hroom
    have hsame := ih r a hroom
    rw [← hsame] at hroom ⊢
    exact deepens_perform_succ bound r a hroom

/-- A dispatch that had room enough for its plug-ins is the same with any more room. -/
theorem dispatch_of_room {r : Resolver} {contents : String} {m : Mutation}
    (hroom : (r.dispatch contents m).result ≠ .error .overflow) {bound : Nat}
    (hbound : r.depth ≤ bound) :
    r.dispatchWith (Resolver.perform bound) contents m = r.dispatch contents m :=
  (deepens_withPlugins (deepens_perform hbound)).2.2 r contents m hroom

end EditWaves.Resolver
