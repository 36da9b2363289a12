import EditWaves.Proofs.Mutation.Documents
import EditWaves.Proofs.Resolver.Sequence

/-!
# How applying a mutation can fail

With the built-in mutators, applying a well-formed mutation fails only through a search
pattern that cannot be read, and the fault is about the first such pattern in the order in
which the parts of the mutation are applied.  The contents have no say in this.

* `Mutation.WellFormed.builtins_lookup`: tags, kinds and the built-in table agree.
* `FailsByPattern.andThen`: what is known of two effects is known of one after the other.
* `Lookup.failsByPattern_dispatch`, by induction on the leaves of a mutation.
* `dispatch_fault`: the faults of a mutation that was read.
-/

namespace EditWaves

namespace Mutation

/-! ## Patterns that cannot be read -/

/-- Whether a mutation searches with a pattern that cannot be read. -/
def isUnreadable : Mutation → Bool
  | .replace _ search _ => (Pattern.compile? search).isNone
  | _ => false

theorem isUnreadable_iff {m : Mutation} : m.isUnreadable = true ↔ ∃ range search template,
    m = .replace range search template ∧ Pattern.compile? search = none := by
  cases m <;> simp [isUnreadable]

/-- An unreadable pattern anywhere inside a mutation is one of a leaf. -/
theorem exists_unreadable_leaf_iff {m : Mutation} :
    (∃ k ∈ m.leaves, k.isUnreadable = true) ↔ ∃ k, Within k m ∧ k.isUnreadable = true := by
  constructor
  · rintro ⟨k, hk, hbad⟩
    exact ⟨k, (mem_leaves_iff.1 hk).1, hbad⟩
  · rintro ⟨k, hwithin, hbad⟩
    obtain ⟨range, search, template, rfl, -⟩ := isUnreadable_iff.1 hbad
    exact ⟨_, mem_leaves_iff.2 ⟨hwithin, rfl⟩, hbad⟩

/-! ## Mutators by kind -/

theorem WellFormed.within {k m : Mutation} (hm : m.WellFormed) (hk : k.Within m) :
    k.WellFormed := by
  induction hk with
  | root => exact hm
  | child hc hk ih =>
    cases hm with
    | multiple hr hchildren => exact ih (hchildren _ hc)

/-- The mutator that fits the kind of a mutation. -/
def mutator? : Mutation → Option Mutator
  | delete _ => some .delete
  | insert _ _ => some .insert
  | replace _ _ _ => some .replace
  | swap _ _ => some .swap
  | multiple _ _ => some .multiple
  | custom _ _ _ => none

/-- No built-in mutator is for a tag that is not built in. -/
theorem builtins_get?_custom {tag : String} (h : tag ∉ Tag.builtin) :
    Searcher.builtins.get? tag = none := by
  have hkeys : Searcher.builtins.keys.Perm Tag.builtin := by decide
  cases hget : Searcher.builtins.get? tag with
  | none => rfl
  | some mutator => exact absurd (hkeys.mem_iff.1 (Dict.mem_keys_iff.2 ⟨mutator, hget⟩)) h

/-- The built-in table has for the tag of a well-formed mutation the mutator of its kind. -/
theorem WellFormed.builtins_lookup {m : Mutation} (h : m.WellFormed) :
    Resolver.builtins.lookup m.tag = m.mutator? := by
  cases h with
  | @custom range tag fields hr htag hfields =>
    rw [Resolver.lookup_eq]
    show (none <|> List.findSome? (fun s : Searcher => s.find? tag) [.registry Searcher.builtins])
      = none
    rw [List.findSome?_singleton]
    exact builtins_get?_custom htag
  | _ => rfl

end Mutation

/-! ## Faults -/

/-- A result of applying mutations in the given order: a fault if the pattern of one of them
cannot be read, which is then about the first of these. -/
inductive FailsByPattern (ms : List Mutation) : Except MutationError String → Prop where
  | ok {contents : String} (h : ms.find? Mutation.isUnreadable = none) :
      FailsByPattern ms (.ok contents)
  | error {range : EditRange} {search template : String}
      (h : ms.find? Mutation.isUnreadable = some (.replace range search template)) :
      FailsByPattern ms (.error (.invalidPattern search))

namespace FailsByPattern

variable {ms l₁ l₂ : List Mutation} {result : Except MutationError String}

theorem append_of_none (hnone : l₁.find? Mutation.isUnreadable = none)
    (h : FailsByPattern l₂ result) : FailsByPattern (l₁ ++ l₂) result := by
  have hfind : (l₁ ++ l₂).find? Mutation.isUnreadable = l₂.find? Mutation.isUnreadable := by
    rw [List.find?_append, hnone, Option.none_or]
  cases h with
  | ok hrest => exact .ok (hfind.trans hrest)
  | error hrest => exact .error (hfind.trans hrest)

/-- What follows on a fault does not matter, and what follows on contents starts over. -/
theorem andThen {e : Effect} {next : String → Effect} (h₁ : FailsByPattern l₁ e.result)
    (h₂ : ∀ contents, FailsByPattern l₂ (next contents).result) :
    FailsByPattern (l₁ ++ l₂) (e.andThen next).result := by
  rcases e with ⟨result, skipped⟩
  cases h₁ with
  | @ok contents hnone => exact (h₂ contents).append_of_none hnone
  | @error range search template hsome =>
    have hfirst : (l₁ ++ l₂).find? Mutation.isUnreadable
        = some (.replace range search template) := by
      rw [List.find?_append, hsome, Option.some_or]
    exact .error hfirst

/-- There is a fault exactly if a pattern cannot be read. -/
theorem exists_error_iff (h : FailsByPattern ms result) :
    (∃ fault, result = .error fault) ↔ ∃ k ∈ ms, k.isUnreadable = true := by
  cases h with
  | ok hnone =>
    have hreadable := List.find?_eq_none.1 hnone
    constructor
    · rintro ⟨fault, ⟨⟩⟩
    · rintro ⟨k, hk, hbad⟩
      exact absurd hbad (hreadable k hk)
  | error hsome =>
    exact ⟨fun _ => ⟨_, List.mem_of_find?_eq_some hsome, List.find?_some hsome⟩, fun _ => ⟨_, rfl⟩⟩

/-- Which fault it is, is a matter of the mutations alone. -/
theorem eq_error_iff (h : FailsByPattern ms result) {fault : MutationError} :
    result = .error fault ↔ ∃ range search template,
      ms.find? Mutation.isUnreadable = some (.replace range search template) ∧
        fault = .invalidPattern search := by
  cases h with
  | ok hnone => simp [hnone]
  | @error range search template hsome =>
    rw [hsome]
    constructor
    · rintro ⟨⟩
      exact ⟨range, search, template, rfl, rfl⟩
    · rintro ⟨_, _, _, ⟨⟩, rfl⟩
      rfl

end FailsByPattern

/-! ## Applying mutations -/

namespace Lookup

variable {find : Lookup}

theorem failsByPattern_replaceText (range : EditRange) (search template contents : String) :
    FailsByPattern [.replace range search template]
      (Mutator.replaceText search template contents) := by
  rw [Mutator.replaceText]
  cases hcompile : Pattern.compile? search with
  | none =>
    refine .error (List.find?_cons_of_pos ?_)
    rw [Mutation.isUnreadable, hcompile]
    rfl
  | some program =>
    refine .ok (List.find?_cons_of_neg ?_)
    rw [Mutation.isUnreadable, hcompile]
    exact Bool.false_ne_true

/-- One mutation without children, applied with the mutator of its kind. -/
theorem failsByPattern_leaf {m : Mutation} (hleaf : m.isLeaf = true)
    (hfind : find m.tag = m.mutator?) (contents : String) :
    FailsByPattern [m] (find.dispatch contents m).result := by
  cases m with
  | multiple range children => cases hleaf
  | custom range tag fields =>
    rw [dispatch_eq, hfind]
    exact .ok rfl
  | replace range search template =>
    rw [dispatch_leaf hfind rfl hleaf]
    exact failsByPattern_replaceText range search template contents
  | delete range | insert range insertion | swap range insertion =>
    rw [dispatch_leaf hfind rfl hleaf]
    exact .ok rfl

/-- Mutations without children one after another. -/
theorem failsByPattern_dispatchAll {ms : List Mutation}
    (hms : ∀ m ∈ ms, m.isLeaf = true ∧ find m.tag = m.mutator?) (contents : String) :
    FailsByPattern ms (find.dispatchAll contents ms).result := by
  induction ms generalizing contents with
  | nil =>
    rw [dispatchAll_nil]
    exact .ok rfl
  | cons m rest ih =>
    obtain ⟨hleaf, hfind⟩ := hms m List.mem_cons_self
    have hrest := ih (fun k hk => hms k (List.mem_cons_of_mem m hk))
    rw [dispatchAll_cons]
    exact (failsByPattern_leaf hleaf hfind contents).andThen hrest

/-- A well-formed mutation, if every well-formed mutation has the mutator of its kind. -/
theorem failsByPattern_dispatch (hfind : ∀ k : Mutation, k.WellFormed → find k.tag = k.mutator?)
    {m : Mutation} (hm : m.WellFormed) (contents : String) :
    FailsByPattern m.leaves (find.dispatch contents m).result := by
  have hmultiple : find Tag.multiple = some .multiple :=
    hfind _ (.multiple hm.range (List.forall_mem_nil _))
  rw [← dispatchAll_leaves contents hmultiple]
  refine failsByPattern_dispatchAll ?_ contents
  intro k hk
  obtain ⟨hwithin, hleaf⟩ := Mutation.mem_leaves_iff.1 hk
  exact ⟨hleaf, hfind k (hm.within hwithin)⟩

end Lookup

/-- With the built-in mutators a mutation that was read fails exactly if a search pattern
somewhere inside it cannot be read, whatever the contents are, and the fault is about the first
such pattern in the order of application. -/
theorem dispatch_fault {r : Resolver} (hr : r.lookup.find = Resolver.builtins.lookup.find)
    {m : Mutation} (hm : m.Read) (contents : String) :
    ((∃ fault, (r.dispatch contents m).result = .error fault) ↔
        ∃ k, Mutation.Within k m ∧ k.isUnreadable = true) ∧
      ∀ fault, (r.dispatch contents m).result = .error fault ↔
        ∃ range search template,
          m.leaves.find? Mutation.isUnreadable = some (.replace range search template) ∧
            fault = .invalidPattern search := by
  have hfind : ∀ k : Mutation, k.WellFormed → r.lookup k.tag = k.mutator? := by
    intro k hk
    rw [hr]
    exact hk.builtins_lookup
  have hfails := Lookup.failsByPattern_dispatch hfind hm.wellFormed contents
  rw [r.result_dispatch]
  constructor
  · rw [← Mutation.exists_unreadable_leaf_iff]
    exact hfails.exists_error_iff
  · intro fault
    exact hfails.eq_error_iff

/-- Of two patterns that cannot be read, the one further back in the text is met first, also if it
is inside another `multiple`. -/
theorem dispatch_fault_nested :
    let search (start : Nat) (pattern : String) : Json := .object [("range", .array [.nat start]),
      ("replace", .string ""), ("search", .string pattern), ("type", .string "text-replace")]
    let group (start : Nat) (items : List Json) : Json := .object [("mutations", .array items),
      ("range", .array [.nat start]), ("type", .string "multiple")]
    let m : Mutation := .multiple (.point 0) [.replace (.point 1) "(" "",
      .multiple (.point 2) [.replace (.point 2) "[" ""]]
    Mutation.ofJson (group 0 [search 1 "(", group 2 [search 2 "["]]) = .ok m ∧
      (∃ fault, (Resolver.builtins.dispatch "text" m).result = .error fault) ∧
      (Resolver.builtins.dispatch "text" m).result = .error (.invalidPattern "[") := by
  intro search group m
  have hpoint : ∀ start, start < offsetLimit →
      (Json.array [.nat start]).DenotesRange (.point start) :=
    fun start hlt => .array (Nat.zero_le 1) hlt .absent
  have hsearch : ∀ start pattern, start < offsetLimit →
      (search start pattern).DenotesMutation (.replace (.point start) pattern "") :=
    fun start pattern hlt => .replace ⟨⟨_, rfl, hpoint start hlt⟩, rfl⟩
      (Json.get?_otherFields _ _) (Json.get?_otherFields _ _)
  have hgroup : ∀ start items ms, start < offsetLimit → Json.DenotesItems items ms →
      (group start items).DenotesMutation (.multiple (.point start) ms) :=
    fun start items ms hlt hitems => .multiple ⟨⟨_, rfl, hpoint start hlt⟩, rfl⟩
      (Json.get?_otherFields _ _) hitems
  have hdenotes : (group 0 [search 1 "(", group 2 [search 2 "["]]).DenotesMutation m := by
    refine hgroup 0 _ _ (by decide) (.cons (hsearch 1 "(" (by decide)) (.cons ?_ .nil))
    exact hgroup 2 _ _ (by decide) (.cons (hsearch 2 "[" (by decide)) .nil)
  have hvalue := Mutation.ofJson_of_denotes hdenotes
  have hfirst : m.leaves.find? Mutation.isUnreadable = some (.replace (.point 2) "[" "") := by
    have hleaves : m.leaves = [.replace (.point 2) "[" "", .replace (.point 1) "(" ""] := by
      simp [m, Mutation.leaves, Mutation.leavesAll, Mutation.lastToFirst, Order.lastToFirst,
        Order.sortDownBy, Order.insertDownBy, Order.effectiveEnd, Ranged.range, Mutation.range,
        EditRange.effectiveEnd, EditRange.point]
    rw [hleaves]
    exact List.find?_cons_of_pos (by decide)
  have hfault := ((dispatch_fault rfl (.value hvalue) "text").2 _).2 ⟨_, _, _, hfirst, rfl⟩
  exact ⟨hvalue, ⟨_, hfault⟩, hfault⟩

end EditWaves
