import EditWaves.Proofs.Resolver.Lookup

/-!
# Mutations in sequence

Applying a list of mutations is applying one after another until a fault, which is a
composition of effects (`Effect.andThen`).  A `multiple` is in this sense no mutation of its
own: if its tag has its built-in mutator, it stands for its children in descending order.

* `dispatchAll_append`: a list of mutations is its front followed by its back.
* `dispatchAll_parts`: a `multiple` has the effect of its parts.
* `Mutation.leaves`: what a mutation applies in the end, the children of each `multiple` in
  descending order and each of them to its end before the next; `Mutation.mem_leaves_iff` says
  which mutations these are and `dispatchAll_leaves` that they have the effect of the whole.
-/

namespace EditWaves

namespace Effect

/-- Goes on with the contents if there was no fault. -/
def andThen (e : Effect) (next : String → Effect) : Effect :=
  match e.result with
  | .ok contents => ⟨(next contents).result, e.skipped ++ (next contents).skipped⟩
  | .error fault => ⟨.error fault, e.skipped⟩

theorem andThen_ok (e : Effect) : e.andThen (fun contents => ⟨.ok contents, []⟩) = e := by
  rcases e with ⟨fault | contents, skipped⟩
  · rfl
  · simp only [andThen, List.append_nil]

theorem andThen_assoc (e : Effect) (next last : String → Effect) :
    (e.andThen next).andThen last = e.andThen (fun contents => (next contents).andThen last) := by
  rcases e with ⟨fault | contents, skipped⟩
  · rfl
  · simp only [andThen]
    rcases next contents with ⟨fault | text, more⟩
    · rfl
    · simp only [List.append_assoc]

end Effect

namespace Mutation

/-- What a mutation applies, in order: the children of a `multiple`, or itself. -/
def parts : Mutation → List Mutation
  | .multiple _ children => lastToFirst children
  | m => [m]

/-! ## The mutations inside a mutation -/

/-- A mutation is another one or occurs somewhere among its children. -/
inductive Within (k : Mutation) : Mutation → Prop where
  | root : Within k k
  | child {range : EditRange} {children : List Mutation} {c : Mutation} (hc : c ∈ children)
      (h : Within k c) : Within k (.multiple range children)

/-- Whether a mutation is one without children. -/
def isLeaf : Mutation → Bool
  | .multiple _ _ => false
  | _ => true

mutual

/-- The mutations without children inside a mutation, in the order in which they are
applied. -/
def leaves : Mutation → List Mutation
  | .multiple _ children => leavesAll (lastToFirst children)
  | m => [m]
termination_by m => (m.weight, 1)
decreasing_by
  apply Prod.Lex.left
  simp [weight, weights_lastToFirst]

/-- The mutations without children inside a list of mutations. -/
def leavesAll : List Mutation → List Mutation
  | [] => []
  | m :: rest => leaves m ++ leavesAll rest
termination_by ms => (weights ms, 2)
decreasing_by
  · simp only [weights]
    rcases Nat.eq_zero_or_pos (weights rest) with h0 | h0
    · rw [h0, Nat.add_zero]
      exact Prod.Lex.right _ (by omega)
    · exact Prod.Lex.left _ _ (by omega)
  · apply Prod.Lex.left
    have hpos := m.weight_pos
    simp only [weights]
    omega

end

/-- What holds of mutations without children, and of a `multiple` if it holds of its children,
holds of all mutations. -/
@[elab_as_elim]
theorem induction_children {motive : Mutation → Prop}
    (leaf : ∀ m : Mutation, m.isLeaf = true → motive m)
    (multiple : ∀ range children, (∀ c ∈ children, motive c) → motive (.multiple range children)) :
    ∀ m, motive m
  | .multiple range children =>
    multiple range children (fun c _hc => induction_children leaf multiple c)
  | .delete _ | .insert _ _ | .replace _ _ _ | .swap _ _ | .custom _ _ _ => leaf _ rfl
termination_by m => sizeOf m
decreasing_by
  have hlt := List.sizeOf_lt_of_mem _hc
  rw [Mutation.multiple.sizeOf_spec]
  omega

theorem leavesAll_eq_flatMap (ms : List Mutation) : leavesAll ms = ms.flatMap leaves := by
  induction ms with
  | nil => rw [leavesAll, List.flatMap_nil]
  | cons m rest ih => rw [leavesAll, ih, List.flatMap_cons]

theorem leaves_multiple (range : EditRange) (children : List Mutation) :
    (Mutation.multiple range children).leaves = (lastToFirst children).flatMap leaves := by
  rw [leaves, leavesAll_eq_flatMap]

theorem leaves_of_isLeaf {m : Mutation} (h : m.isLeaf = true) : m.leaves = [m] := by
  rw [leaves]
  rintro range children rfl
  cases h

theorem mem_leaves_multiple {k : Mutation} {range : EditRange} {children : List Mutation} :
    k ∈ (Mutation.multiple range children).leaves ↔ ∃ c ∈ children, k ∈ c.leaves := by
  simp only [leaves_multiple, List.mem_flatMap, (perm_lastToFirst children).mem_iff]

theorem within_of_mem_leaves {k m : Mutation} (h : k ∈ m.leaves) :
    k.Within m ∧ k.isLeaf = true := by
  induction m using induction_children with
  | leaf m hleaf =>
    rw [leaves_of_isLeaf hleaf, List.mem_singleton] at h
    rw [h]
    exact ⟨.root, hleaf⟩
  | multiple range children ih =>
    obtain ⟨c, hc, hk⟩ := mem_leaves_multiple.1 h
    obtain ⟨hwithin, hleaf⟩ := ih c hc hk
    exact ⟨.child hc hwithin, hleaf⟩

/-- The leaves of a mutation are the mutations inside it that have no children. -/
theorem mem_leaves_iff {k m : Mutation} : k ∈ m.leaves ↔ k.Within m ∧ k.isLeaf = true := by
  constructor
  · exact within_of_mem_leaves
  · rintro ⟨hwithin, hleaf⟩
    induction hwithin with
    | root =>
      rw [leaves_of_isLeaf hleaf]
      exact List.mem_singleton_self k
    | child hc h ih => exact mem_leaves_multiple.2 ⟨_, hc, ih⟩

end Mutation

/-! ## Sequences -/

namespace Lookup

/-- A mutation without children is edited by whatever built-in mutator it is given. -/
theorem mutate_leaf {find : Lookup} {mutator : Mutator} {m : Mutation}
    (hbuiltin : mutator.tag?.isSome = true) (hleaf : m.isLeaf = true) (contents : String) :
    find.mutate mutator contents m = ⟨mutator.edit contents m, []⟩ := by
  rw [mutate, mutateWith]
  · rintro p rfl
    cases hbuiltin
  · rintro range children - rfl
    cases hleaf

theorem dispatch_leaf {find : Lookup} {mutator : Mutator} {m : Mutation}
    (hfind : find m.tag = some mutator) (hbuiltin : mutator.tag?.isSome = true)
    (hleaf : m.isLeaf = true) (contents : String) :
    find.dispatch contents m = ⟨mutator.edit contents m, []⟩ := by
  rw [dispatch_eq, hfind]
  exact mutate_leaf hbuiltin hleaf contents

variable (find : Lookup) (contents : String)

theorem dispatchAll_cons (m : Mutation) (rest : List Mutation) :
    find.dispatchAll contents (m :: rest)
      = (find.dispatch contents m).andThen (fun text => find.dispatchAll text rest) := by
  rw [dispatchAll, dispatchAllWith, dispatch]
  rcases find.dispatchWith _ contents m with ⟨fault | text, skipped⟩
  · rfl
  · rfl

theorem dispatchAll_singleton (m : Mutation) :
    find.dispatchAll contents [m] = find.dispatch contents m := by
  simp only [dispatchAll_cons, dispatchAll_nil, Effect.andThen_ok]

theorem dispatchAll_append (l₁ l₂ : List Mutation) :
    find.dispatchAll contents (l₁ ++ l₂)
      = (find.dispatchAll contents l₁).andThen (fun text => find.dispatchAll text l₂) := by
  induction l₁ generalizing contents with
  | nil =>
    rw [dispatchAll_nil, List.nil_append, Effect.andThen]
    rfl
  | cons m l₁ ih =>
    rw [List.cons_append, dispatchAll_cons, dispatchAll_cons, Effect.andThen_assoc]
    simp only [ih]

variable {find}

/-- A mutation has the effect of its parts. -/
theorem dispatchAll_parts (hmultiple : find Tag.multiple = some .multiple) (m : Mutation) :
    find.dispatchAll contents m.parts = find.dispatch contents m := by
  cases m with
  | multiple range children =>
    have hfind : find (Mutation.multiple range children).tag = some .multiple := hmultiple
    rw [dispatch_eq, hfind]
    exact (mutate_multiple find contents range children).symm
  | _ => exact dispatchAll_singleton find contents _

/-- Mutations may be written out as others in whose sequence each of them has its effect. -/
theorem dispatchAll_flatMap {unroll : Mutation → List Mutation} {ms : List Mutation}
    (h : ∀ m ∈ ms, ∀ text, find.dispatchAll text (unroll m) = find.dispatch text m) :
    find.dispatchAll contents (ms.flatMap unroll) = find.dispatchAll contents ms := by
  induction ms generalizing contents with
  | nil => rfl
  | cons m rest ih =>
    have hrest := fun text => ih text (fun k hk => h k (List.mem_cons_of_mem m hk))
    rw [List.flatMap_cons, dispatchAll_append, h m List.mem_cons_self, dispatchAll_cons]
    simp only [hrest]

/-- A list of mutations has the effect of all their parts. -/
theorem dispatchAll_flatMap_parts (hmultiple : find Tag.multiple = some .multiple)
    (ms : List Mutation) :
    find.dispatchAll contents (ms.flatMap Mutation.parts) = find.dispatchAll contents ms :=
  dispatchAll_flatMap contents (fun m _ text => dispatchAll_parts text hmultiple m)

/-- A mutation has the effect of its leaves. -/
theorem dispatchAll_leaves (hmultiple : find Tag.multiple = some .multiple) (m : Mutation) :
    find.dispatchAll contents m.leaves = find.dispatch contents m := by
  induction m using Mutation.induction_children generalizing contents with
  | leaf m hleaf =>
    rw [Mutation.leaves_of_isLeaf hleaf]
    exact dispatchAll_singleton find contents m
  | multiple range children ih =>
    rw [Mutation.leaves_multiple, ← dispatchAll_parts contents hmultiple]
    refine dispatchAll_flatMap contents ?_
    intro c hc text
    exact ih c ((Mutation.perm_lastToFirst children).mem_iff.1 hc) text

end Lookup

end EditWaves
