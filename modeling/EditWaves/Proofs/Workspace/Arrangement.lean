import EditWaves.Mutation.Combine
import EditWaves.Proofs.Mutation.Sweep
import EditWaves.Proofs.Resolver.Sequence
import EditWaves.Workspace

/-!
# Lists of edits in another arrangement

Edits are sorted before they are applied, and the sorts are stable.  How a list of them is
arranged can therefore only show between edits with one effective end.

* `dispatch_combine`: the children of a `multiple` may be in ascending order already, since
  a stable sort keeps those with one effective end as they were listed.
* `applyFile_rearranged`: where no two edits of a file have one effective end, neither the
  orders nor anything that happens to the file depends on how they are listed.
-/

namespace EditWaves

/-! ## Combined mutations -/

/-- Children in ascending order are applied as if they had been left as they were. -/
theorem Mutation.parts_combine (range : EditRange) (ms : List Mutation) :
    (combine ms).parts = (multiple range ms).parts :=
  Order.sortDownBy_sortBy Order.effectiveEnd ms

namespace Resolver

variable {r : Resolver} (contents : String)

/-- With its built-in mutator a `multiple` shows nothing but what it applies. -/
theorem dispatch_multiple_congr (hmultiple : r.lookup Tag.multiple = some .multiple)
    {range range' : EditRange} {children children' : List Mutation}
    (hparts : (Mutation.multiple range children).parts
      = (Mutation.multiple range' children').parts) :
    r.dispatch contents (.multiple range children)
      = r.dispatch contents (.multiple range' children') := by
  have hparts : Mutation.lastToFirst children = Mutation.lastToFirst children' := hparts
  rcases hresolve : r.resolve Tag.multiple with ⟨found, after, log⟩
  have hfound : found = some .multiple := by
    rw [← hmultiple]
    exact (congrArg Prod.fst hresolve).symm
  subst hfound
  have hdispatch : ∀ range children, r.dispatch contents (.multiple range children)
      = let d := after.dispatchAllWith (perform r.depth) contents (Mutation.lastToFirst children)
        { d with log := log ++ d.log } := by
    intro range children
    have htag : r.resolve (Mutation.multiple range children).tag = (some .multiple, after, log) :=
      hresolve
    rw [dispatch, dispatchWith, htag]
    simp only [mutateWith]
  rw [hdispatch, hdispatch, hparts]

/-- Combining mutations does not change what they do: they are applied in the same order as
the children of a `multiple` that has them as they are given, and the contents or the fault,
the skipped mutations and all else that is noted are the same.  The tag of a `multiple` has
to have its built-in mutator. -/
theorem dispatch_combine (r : Resolver) (contents : String) (range : EditRange)
    (ms : List Mutation) (hmultiple : r.lookup Tag.multiple = some .multiple) :
    (Mutation.combine ms).parts = (Mutation.multiple range ms).parts ∧
      r.dispatch contents (Mutation.combine ms) = r.dispatch contents (.multiple range ms) :=
  ⟨Mutation.parts_combine range ms,
    dispatch_multiple_congr contents hmultiple (Mutation.parts_combine range ms)⟩

/-- Children with one effective end, one of them skipped, under a range that has nothing to do
with theirs. -/
theorem dispatch_combine_tied :
    let r := Resolver.builtins
    let ms : List Mutation := [.swap (.span 2 4) "x", .insert (.point 4) "y",
      .custom (.span 0 4) "text-shout" .empty, .delete (.span 0 3)]
    r.lookup Tag.multiple = some .multiple ∧
      (r.dispatch "hello" (Mutation.combine ms)).result
        = (r.dispatch "hello" (.multiple (.point 9) ms)).result ∧
      Log.skipped (r.dispatch "hello" (Mutation.combine ms)).log
        = Log.skipped (r.dispatch "hello" (.multiple (.point 9) ms)).log := by
  intro r ms
  have hmultiple : r.lookup Tag.multiple = some .multiple := rfl
  obtain ⟨-, hdispatch⟩ := dispatch_combine r "hello" (.point 9) ms hmultiple
  exact ⟨hmultiple, by rw [hdispatch], by rw [hdispatch]⟩

end Resolver

/-! ## Edits with different effective ends -/

namespace Order

variable {α : Type} [Ranged α] {l l' : List α} (hperm : l.Perm l')
  (hends : (l.map effectiveEnd).Nodup)

include hperm hends

theorem firstToLast_of_perm : firstToLast l = firstToLast l' :=
  (stablySorted_sortBy effectiveEnd l).eq_of_perm (stablySorted_sortBy effectiveEnd l') hperm hends

theorem lastToFirst_of_perm : lastToFirst l = lastToFirst l' :=
  (stablySorted_sortDownBy effectiveEnd l).eq_of_perm (stablySorted_sortDownBy effectiveEnd l')
    hperm hends

theorem sweepOrder_of_perm : sweepOrder l = sweepOrder l' := by
  rw [sweepOrder, firstToLast_of_perm hperm hends, sweepOrder]

/-- What the sweep keeps depends only on the order in which it meets the edits. -/
theorem sweep_of_perm : sweep l = sweep l' := by
  rw [sweep, sweepOrder_of_perm hperm hends, sweep]

theorem drops_of_perm : drops l = drops l' := by
  rw [drops, sweepOrder_of_perm hperm hends, drops]

end Order

/-- A pipeline sees of its mutations only what the sweep keeps and drops. -/
theorem Workspace.applyFile_of_sweep {φ : Type} [FileAccess φ] (w : Workspace φ) (name : String)
    {ms ns : List Mutation} (hkept : Order.sweep ms = Order.sweep ns)
    (hdropped : Order.drops ms = Order.drops ns) : w.applyFile name ms = w.applyFile name ns := by
  have hsweep : Mutation.sweep ms = Mutation.sweep ns := hkept
  have hnotes : dropNotes ms = dropNotes ns := by rw [dropNotes, hdropped, dropNotes]
  simp only [applyFile, mutateContents, hsweep, hnotes]

/-- Mutations of which no two have one effective end can be listed in any order: sorted up or
down and swept they are the same sequences, and applied to a file, whatever it holds and
whichever mutators there are, they give the same contents or fault, the same log and the same
workspace. -/
theorem applyFile_rearranged {ms ns : List Mutation} (hperm : ms.Perm ns)
    (hends : (ms.map Mutation.effectiveEnd).Nodup) :
    Mutation.firstToLast ms = Mutation.firstToLast ns ∧
    Mutation.lastToFirst ms = Mutation.lastToFirst ns ∧
    Mutation.sweep ms = Mutation.sweep ns ∧ Order.drops ms = Order.drops ns ∧
    ∀ {φ : Type} [FileAccess φ] (w : Workspace φ) (name : String),
      w.applyFile name ms = w.applyFile name ns := by
  have hsweep := Order.sweep_of_perm hperm hends
  have hdrops := Order.drops_of_perm hperm hends
  exact ⟨Order.firstToLast_of_perm hperm hends, Order.lastToFirst_of_perm hperm hends, hsweep,
    hdrops, fun w name => w.applyFile_of_sweep name hsweep hdrops⟩

/-- Three mutations, two of which overlap, listed in two ways. -/
theorem applyFile_rearranged_three :
    let ms : List Mutation := [.insert (.point 5) "!", .swap (.span 3 8) "p", .delete (.span 0 2)]
    let ns : List Mutation := [.delete (.span 0 2), .insert (.point 5) "!", .swap (.span 3 8) "p"]
    let w := Workspace.new (⟨.ofList [("a.txt", .new "hello world" [] [])]⟩ : Store) .builtins
    ms.Perm ns ∧ (ms.map Mutation.effectiveEnd).Nodup ∧
      Mutation.sweep ms = Mutation.sweep ns ∧
      w.applyFile "a.txt" ms = w.applyFile "a.txt" ns := by
  intro ms ns w
  have hperm : ms.Perm ns := List.perm_append_singleton _ [_, _]
  have hends : (ms.map Mutation.effectiveEnd).Nodup := by decide
  obtain ⟨-, -, hsweep, -, hfile⟩ := applyFile_rearranged hperm hends
  exact ⟨hperm, hends, hsweep, hfile w "a.txt"⟩

end EditWaves
