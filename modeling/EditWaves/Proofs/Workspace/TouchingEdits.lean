import EditWaves.Proofs.Workspace.SimultaneousEdit

/-!
# Edits that touch

The children of a `multiple` are not swept, so they may touch: one may end where another one
starts, and an insertion may stand between the two.  In the text they have one order all the
same (`Precedes`), since a point stands behind what ends there and before what starts there.

Children are applied in descending order of their ends.  This is the reverse of their order in
the text, except that an edit and an insertion at its end are applied as they are listed.  A
`multiple` therefore is one edit of the original text if no child is listed before an insertion
at its end (`InTurn`).

* `pairwise_inPlace`, `reverse_active_lastToFirst`: the order in the text and the order of
  application.
* `dispatch_touching`: a `multiple` whose children are listed so is one edit.
* `dispatch_touching_out_of_turn`: one with a child before an insertion at its end is not.
-/

namespace EditWaves

namespace Mutation

/-! ## The order of edits in the text -/

/-- Whether a text edit changes nothing: it removes no characters and puts none in. -/
def isIdle (m : Mutation) : Bool := decide (m.effectiveEnd ≤ m.start) && decide (m.insertion = "")

/-- The edits that change something. -/
def active (ms : List Mutation) : List Mutation := ms.filter (fun m => !m.isIdle)

/-- An edit ends where another one starts, or before, and they are not at one point. -/
def Precedes (a b : Mutation) : Prop := a.effectiveEnd ≤ b.start ∧ a.start < b.effectiveEnd

instance (a b : Mutation) : Decidable (Precedes a b) :=
  inferInstanceAs (Decidable (a.effectiveEnd ≤ b.start ∧ a.start < b.effectiveEnd))

/-- Two edits affect different parts of the text; they may touch. -/
def Beside (a b : Mutation) : Prop := Precedes a b ∨ Precedes b a

instance (a b : Mutation) : Decidable (Beside a b) :=
  inferInstanceAs (Decidable (Precedes a b ∨ Precedes b a))

theorem Beside.symm {a b : Mutation} (h : Beside a b) : Beside b a := Or.symm h

/-- An edit does not precede one that ends where it ends, which would be an insertion at its
end. -/
def InTurn (a b : Mutation) : Prop := Precedes a b → a.effectiveEnd < b.effectiveEnd

instance (a b : Mutation) : Decidable (InTurn a b) :=
  inferInstanceAs (Decidable (Precedes a b → a.effectiveEnd < b.effectiveEnd))

/-- The edits that change something, in the order of the text: by their starts, and those with
one start by their ends. -/
def inPlace (ms : List Mutation) : List Mutation :=
  Order.sortBy start (Order.sortBy effectiveEnd (active ms))

/-- Text edits of a text of `n` characters that touch at most. -/
structure Touching (n : Nat) (ms : List Mutation) : Prop where
  edits : ∀ m ∈ ms, m.isTextEdit = true
  within : ∀ m ∈ ms, m.effectiveEnd ≤ n
  beside : (active ms).Pairwise Beside

theorem perm_inPlace (ms : List Mutation) : (inPlace ms).Perm (active ms) :=
  (Order.stablySorted_sortBy start _).perm.trans (Order.stablySorted_sortBy effectiveEnd _).perm

theorem perm_active {ms ns : List Mutation} (h : ms.Perm ns) : (active ms).Perm (active ns) :=
  h.filter _

variable {n : Nat} {ms : List Mutation} (hms : Touching n ms)

include hms

/-- The edits of a text stand in it one behind the other. -/
theorem pairwise_inPlace : (inPlace ms).Pairwise Precedes := by
  have hends := Order.stablySorted_sortBy effectiveEnd (active ms)
  have hstarts := Order.stablySorted_sortBy start (Order.sortBy effectiveEnd (active ms))
  have htied := hstarts.pairwise_tied hends.ordered
  have hbeside : (inPlace ms).Pairwise Beside :=
    (perm_inPlace ms).symm.pairwise hms.beside Beside.symm
  refine ((hbeside.and hstarts.ordered).and htied).imp ?_
  rintro a b ⟨⟨hab | hba, hstart⟩, htie⟩
  · exact hab
  · -- Otherwise `b` would be a point at the start of `a`, and so would `a`.
    obtain ⟨hend, hlt⟩ := hba
    have hb : b.start ≤ b.effectiveEnd := b.range.start_le_effectiveEnd
    have hsame : a.start = b.start := by omega
    have hle : a.effectiveEnd ≤ b.effectiveEnd := htie hsame
    omega

/-- Edits are applied in the reverse of their order in the text if none is listed before an
insertion at its end. -/
theorem pairwise_active_lastToFirst (hturn : (active ms).Pairwise InTurn) :
    (active (lastToFirst ms)).Pairwise (fun a b => Precedes b a) := by
  have hsorted := Order.stablySorted_sortDownBy effectiveEnd ms
  have hbeside : (active (lastToFirst ms)).Pairwise Beside :=
    (perm_active (perm_lastToFirst ms)).symm.pairwise hms.beside Beside.symm
  have hdown : (active (lastToFirst ms)).Pairwise (fun a b => b.effectiveEnd ≤ a.effectiveEnd) :=
    hsorted.ordered.filter _
  have htied : (active (lastToFirst ms)).Pairwise
      (fun a b => a.effectiveEnd = b.effectiveEnd → InTurn a b) := by
    refine List.pairwise_filter.2 ((hsorted.pairwise_tied (List.pairwise_filter.1 hturn)).imp ?_)
    intro a b htie ha hb hend
    exact htie hend ha hb
  refine ((hbeside.and hdown).and htied).imp ?_
  rintro a b ⟨⟨hab | hba, hend⟩, htie⟩
  · have hb : b.start ≤ b.effectiveEnd := b.range.start_le_effectiveEnd
    have hsame : a.effectiveEnd = b.effectiveEnd := by
      have := hab.1
      omega
    have hlt : a.effectiveEnd < b.effectiveEnd := htie hsame hab
    omega
  · exact hba

theorem reverse_active_lastToFirst (hturn : (active ms).Pairwise InTurn) :
    (active (lastToFirst ms)).reverse = inPlace ms := by
  have hperm : (active (lastToFirst ms)).reverse.Perm (inPlace ms) :=
    (List.reverse_perm _).trans
      ((perm_active (perm_lastToFirst ms)).trans (perm_inPlace ms).symm)
  refine hperm.eq_of_pairwise ?_
    (List.pairwise_reverse.2 (pairwise_active_lastToFirst hms hturn)) (pairwise_inPlace hms)
  intro a b _ _ hab hba
  have hb : b.start ≤ b.effectiveEnd := b.range.start_le_effectiveEnd
  have hend : a.effectiveEnd ≤ b.start := hab.1
  have hlt : b.start < a.effectiveEnd := hba.2
  omega

end Mutation

/-! ## One edit of the original -/

open Mutation (Touching InTurn Precedes active inPlace)

/-- Edits that change nothing need not be applied. -/
theorem applyEach_active {find : Lookup} (hfind : find.EditsText) (contents : String)
    {ms : List Mutation} (hedits : ∀ m ∈ ms, m.isTextEdit = true) :
    find.applyEach contents (active ms) = find.applyEach contents ms := by
  induction ms generalizing contents with
  | nil => rfl
  | cons m ms ih =>
    have hrest := fun text => ih text (fun k hk => hedits k (List.mem_cons_of_mem _ hk))
    cases hidle : m.isIdle with
    | true =>
      obtain ⟨hend, hempty⟩ : m.effectiveEnd ≤ m.start ∧ m.insertion = "" := by
        simpa [Mutation.isIdle] using hidle
      have hnone : m.resume ≤ m.start := Nat.le_trans m.resume_le_effectiveEnd hend
      rw [active, List.filter_cons_of_neg (by simp [hidle]),
        applyEach_cons_idle hfind (hedits m List.mem_cons_self) hempty (.inl hnone)]
      exact hrest contents
    | false =>
      have hstep := hfind.dispatch (hedits m List.mem_cons_self) contents
      rw [active, List.filter_cons_of_pos (by simp [hidle]), Lookup.applyEach_cons_ok hstep,
        Lookup.applyEach_cons_ok hstep]
      exact hrest _

/-- A `multiple` of text edits that touch at most, none of which is listed before an insertion
at its end, is one edit of the original text: each edit that changes something is applied at its
place in the original, with a point behind what ends there and before what starts there. -/
theorem dispatch_touching (r : Resolver) (contents : String) (range : EditRange)
    (children : List Mutation) (hfind : r.lookup.EditsText)
    (hmultiple : r.lookup Tag.multiple = some .multiple)
    (hchildren : Touching contents.toList.length children)
    (hturn : (active children).Pairwise InTurn) :
    (r.dispatch contents (.multiple range children)).result
        = .ok (simultaneousEdit contents (inPlace children)) ∧
      (inPlace children).Perm (active children) ∧ (inPlace children).Pairwise Precedes := by
  refine ⟨?_, Mutation.perm_inPlace children, Mutation.pairwise_inPlace hchildren⟩
  have hlisted : ∀ m ∈ Mutation.lastToFirst children, m ∈ children :=
    fun m hm => (Mutation.perm_lastToFirst children).mem_iff.1 hm
  have hmember : ∀ m ∈ active (Mutation.lastToFirst children), m ∈ children :=
    fun m hm => hlisted m (List.mem_filter.1 hm).1
  have hdown : (active (Mutation.lastToFirst children)).Pairwise
      (fun a b => b.resume ≤ a.start) := by
    refine (Mutation.pairwise_active_lastToFirst hchildren hturn).imp ?_
    intro a b hba
    exact Nat.le_trans b.resume_le_effectiveEnd hba.1
  have hend : ∀ m ∈ active (Mutation.lastToFirst children), m.resume ≤ contents.toList.length := by
    intro m hm
    exact Nat.le_trans m.resume_le_effectiveEnd (hchildren.within m (hmember m hm))
  have happly : r.lookup.applyEach (contents ++ "") (active (Mutation.lastToFirst children))
      = .ok (simultaneousEdit contents (active (Mutation.lastToFirst children)).reverse ++ "") :=
    applyEach_within hfind "" (fun m hm => hchildren.edits m (hmember m hm)) hdown hend
  rw [String.append_empty, String.append_empty,
    Mutation.reverse_active_lastToFirst hchildren hturn] at happly
  rw [Resolver.result_dispatch_multiple hmultiple,
    ← applyEach_active hfind contents (fun m hm => hchildren.edits m (hlisted m hm)), happly]

/-- An insertion between a deletion and a swap, listed before the deletion that ends there, and
one behind the swap; a deletion of no characters stands inside the swap. -/
theorem dispatch_touching_four :
    let children : List Mutation := [.insert (.point 4) "!", .delete (.span 3 3),
      .insert (.point 2) "-", .swap (.span 2 4) "XYZ", .delete (.span 0 2)]
    Resolver.builtins.lookup.EditsText ∧
      Resolver.builtins.lookup Tag.multiple = some .multiple ∧
      Touching "abcdef".toList.length children ∧ (active children).Pairwise InTurn ∧
      (Resolver.builtins.dispatch "abcdef" (.multiple (.span 0 4) children)).result
        = .ok "-XYZ!ef" := by
  intro children
  have hfind : Resolver.builtins.lookup.EditsText := ⟨rfl, rfl, rfl⟩
  have hmultiple : Resolver.builtins.lookup Tag.multiple = some .multiple := rfl
  have hchildren : Touching "abcdef".toList.length children :=
    ⟨by decide, by decide, by decide⟩
  have hturn : (active children).Pairwise InTurn := by decide
  have hresult := (dispatch_touching Resolver.builtins "abcdef" (.span 0 4) children hfind
    hmultiple hchildren hturn).1
  exact ⟨hfind, hmultiple, hchildren, hturn, hresult.trans rfl⟩

/-- A deletion listed before an insertion at its end is applied first, and the insertion then
goes to the wrong place. -/
theorem dispatch_touching_out_of_turn :
    let children : List Mutation := [.delete (.span 0 2), .insert (.point 2) "!"]
    Touching "abcd".toList.length children ∧
      simultaneousEdit "abcd" (inPlace children) = "!cd" ∧
      (Resolver.builtins.dispatch "abcd" (.multiple (.span 0 2) children)).result
        = .ok "cd!" := by
  intro children
  have hfind : Resolver.builtins.lookup.EditsText := ⟨rfl, rfl, rfl⟩
  have hdelete : (Resolver.builtins.lookup.dispatch "abcd" (.delete (.span 0 2))).result
      = .ok "cd" := by
    rw [hfind.dispatch rfl]
    rfl
  have hinsert : (Resolver.builtins.lookup.dispatch "cd" (.insert (.point 2) "!")).result
      = .ok "cd!" := by
    rw [hfind.dispatch rfl]
    rfl
  refine ⟨⟨by decide, by decide, by decide⟩, rfl, ?_⟩
  rw [Resolver.result_dispatch_multiple rfl, show Mutation.lastToFirst children = children from rfl,
    Lookup.applyEach_cons_ok hdelete, Lookup.applyEach_cons_ok hinsert, Lookup.applyEach_nil]

end EditWaves
