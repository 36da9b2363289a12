import EditWaves.Mutator
import EditWaves.Proofs.Text.Splice

/-!
# Laws of text edits

A swap is a deletion and then an insertion at the same place, and another swap takes it back.  The
second edit counts its characters in the edited text, which may be shorter or longer than the
text before; so an offset past the end of the one need not be past the end of the other.

* `splice_splice_empty`: a splice in two steps.
* `splice_undone`: a splice, and the one that puts back what was taken out.
* `edit_swap_undone`: both for edits of a file.
-/

namespace EditWaves.Text

section Splice

variable (s : String) (start stop : Nat) (insertion : String)

/-- Taking characters out and then putting others in at the same place is one splice. -/
theorem splice_splice_empty :
    splice (splice s start stop "") start start insertion = splice s start stop insertion := by
  have hrest := toList_splice_clamped s start stop ""
  rw [String.toList_empty, List.append_nil] at hrest
  have hfront : (s.toList.take (min start s.toList.length)).length = min start s.toList.length :=
    List.length_take_of_le (Nat.min_le_right _ _)
  -- Where the text begins to be missing does not depend on how much of it is missing.
  have hstart : min start (splice s start stop "").toList.length = min start s.toList.length := by
    rw [hrest, List.length_append, hfront, List.length_drop]
    omega
  rw [← String.toList_inj, toList_splice_clamped _ start start, hstart, Nat.max_self, hrest,
    List.take_left' hfront, List.drop_left' hfront, toList_splice_clamped s start stop]

/-- Putting back what a splice took out, in place of what it put in, undoes it. -/
theorem splice_undone :
    let first := min start s.toList.length
    let last := max first (min stop s.toList.length)
    splice (splice s start stop insertion) first (first + insertion.toList.length)
      (String.ofList ((s.toList.take last).drop first)) = s := by
  intro first last
  have hfront : (s.toList.take first).length = first :=
    List.length_take_of_le (Nat.min_le_right _ _)
  have hfilled : (s.toList.take first ++ insertion.toList).length
      = first + insertion.toList.length := by
    rw [List.length_append, hfront]
  have hspliced : (splice s start stop insertion).toList
      = s.toList.take first ++ insertion.toList ++ s.toList.drop last :=
    toList_splice_clamped s start stop insertion
  have hkept : s.toList.take first = (s.toList.take last).take first := by
    rw [List.take_take, Nat.min_eq_left (Nat.le_max_left _ _)]
  rw [← String.toList_inj, toList_splice, Nat.max_eq_right (Nat.le_add_right _ _), hspliced,
    List.drop_left' hfilled, List.append_assoc (s.toList.take first), List.take_left' hfront,
    String.toList_ofList, hkept, List.take_append_drop, List.take_append_drop]

end Splice

end EditWaves.Text

namespace EditWaves.Mutator

/-- A swap of the characters from `b` up to `e`, however the range is spelled and wherever it lies,
is their deletion and then an insertion at `b`.  It is undone by the swap of what it put in for what
it took out. -/
theorem edit_swap_undone (contents insertion : String) {b e : Nat} {range : EditRange}
    (hstart : range.start = b) (hend : range.effectiveEnd = max b e) :
    let cs := contents.toList
    let first := min b cs.length
    let removed := String.ofList ((cs.take (max first (min e cs.length))).drop first)
    ∃ swapped, swap.edit contents (.swap range insertion) = .ok swapped ∧
      (delete.edit contents (.delete range) >>=
        fun rest => insert.edit rest (.insert (.point b) insertion)) = .ok swapped ∧
      swap.edit swapped (.swap (.span first (first + insertion.toList.length)) removed)
        = .ok contents := by
  intro cs first removed
  subst hstart
  refine ⟨Text.splice contents range.start range.effectiveEnd insertion, rfl, ?_, ?_⟩
  · show Except.ok (Text.splice (Text.splice contents range.start range.effectiveEnd "")
      range.start range.start insertion) = _
    rw [Text.splice_splice_empty]
  · have hspan : (EditRange.span first (first + insertion.toList.length)).effectiveEnd
        = first + insertion.toList.length := by
      simp [EditRange.effectiveEnd, EditRange.span]
    have hlast : max first (min range.effectiveEnd cs.length) = max first (min e cs.length) := by
      omega
    have hremoved : removed = String.ofList
        ((cs.take (max first (min range.effectiveEnd cs.length))).drop first) := by
      rw [hlast]
    rw [edit, hspan, hremoved]
    exact congrArg Except.ok
      (Text.splice_undone contents range.start range.effectiveEnd insertion)

/-- Two characters up to an end past the text, and an insertion of four bytes. -/
theorem edit_swap_undone_accented :
    let range : EditRange := ⟨3, some 9⟩
    range.start = 3 ∧ range.effectiveEnd = max 3 9 ∧
      swap.edit "héllo" (.swap range "😀") = .ok "hél😀" ∧
      (delete.edit "héllo" (.delete range) >>=
        fun rest => insert.edit rest (.insert (.point 3) "😀")) = .ok "hél😀" ∧
      swap.edit "hél😀" (.swap (.span 3 4) "lo") = .ok "héllo" := by
  intro range
  have hstart : range.start = 3 := rfl
  have hend : range.effectiveEnd = max 3 9 := rfl
  obtain ⟨swapped, hswap, hsteps, hundone⟩ := edit_swap_undone "héllo" "😀" hstart hend
  have htext : swapped = "hél😀" := by
    have hsplice : Text.splice "héllo" 3 9 "😀" = swapped := Except.ok.inj hswap
    rw [← String.toList_inj, ← hsplice, Text.toList_splice]
    rfl
  subst htext
  exact ⟨hstart, hend, hswap, hsteps, hundone⟩

end EditWaves.Mutator
