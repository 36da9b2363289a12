import EditWaves.Proofs.Workspace.SimultaneousEdit

/-!
# What becomes of inserted text

An edit is clamped to the text that it is applied to, not to the original.  An edit past the
end can therefore get into text that an edit applied before it has put there: it can cut that
text, split it, or put its own text on the wrong side.  All inserted text stands in the result,
whole and in ascending order, as long as this does not happen (`Spares`).

* `holdsInOrder_editedSlice`: edits applied at once keep all inserted text.
* `applyFile_holdsInsertions`: so does a file, if the kept edits spare each other's text.
* `applyFile_cuts_insertion`: without this condition a deletion cuts an insertion.
-/

namespace EditWaves

/-! ## Texts one after another -/

/-- A text holds words whole, one after another. -/
def HoldsInOrder (text : List Char) : List (List Char) → Prop
  | [] => True
  | word :: words =>
    ∃ before after, text = before ++ (word ++ after) ∧ HoldsInOrder after words

namespace HoldsInOrder

variable {text : List Char} {words : List (List Char)}

theorem append_left (front : List Char) (h : HoldsInOrder text words) :
    HoldsInOrder (front ++ text) words := by
  cases words with
  | nil => trivial
  | cons word words =>
    obtain ⟨before, after, htext, hafter⟩ := h
    refine ⟨front ++ before, after, ?_, hafter⟩
    rw [htext, List.append_assoc]

/-- A text holds the characters of its words in their order. -/
theorem flatten_sublist (h : HoldsInOrder text words) : words.flatten.Sublist text := by
  induction words generalizing text with
  | nil => exact List.nil_sublist text
  | cons word words ih =>
    obtain ⟨before, after, rfl, hafter⟩ := h
    have hrest : (word ++ words.flatten).Sublist (word ++ after) :=
      (ih hafter).append_left word
    exact hrest.trans (List.sublist_append_right before _)

end HoldsInOrder

/-! ## Inserted text -/

/-- Whether a mutation puts in text of its own. -/
def Mutation.putsText : Mutation → Bool
  | insert _ _ | swap _ _ => true
  | delete _ | replace _ _ _ | multiple _ _ | custom _ _ _ => false

/-- The texts that edits put in. -/
def insertions (ms : List Mutation) : List (List Char) :=
  (ms.filter Mutation.putsText).map (fun m => m.insertion.toList)

/-- Edits applied at once keep all the text that they put in. -/
theorem holdsInOrder_editedSlice (s : List Char) (start stop : Nat) (ms : List Mutation) :
    HoldsInOrder (editedSlice s start stop ms) (insertions ms) := by
  induction ms generalizing start with
  | nil => trivial
  | cons m ms ih =>
    rw [editedSlice, List.append_assoc]
    cases hputs : m.putsText with
    | true =>
      have hwords : insertions (m :: ms) = m.insertion.toList :: insertions ms := by
        rw [insertions, List.filter_cons_of_pos hputs, List.map_cons, insertions]
      rw [hwords]
      exact ⟨Text.slice s start m.start, _, rfl, ih m.resume⟩
    | false =>
      have hwords : insertions (m :: ms) = insertions ms := by
        rw [insertions, List.filter_cons_of_neg (by rw [hputs]; decide), insertions]
      rw [hwords, ← List.append_assoc]
      exact (ih m.resume).append_left _

/-- The contents that a file gets by text edits hold the text of every kept insertion and
swap, whole and in ascending order, if no kept edit gets into text that another one has put
behind the end of the original. -/
theorem applyFile_holdsInsertions {φ : Type} [FileAccess φ] (w : Workspace φ) (name : String)
    (ms : List Mutation) (contents : String) (files : φ)
    (hfind : w.resolver.lookup.EditsText) (hedits : ∀ m ∈ ms, m.isTextEdit = true)
    (hread : FileAccess.read w.files name = (.ok contents, files))
    (hspares : Spares contents.toList.length (Mutation.sweep ms)) :
    let text := simultaneousEdit contents (Mutation.sweep ms).reverse
    let written := FileAccess.write files name text
    (w.applyFile name ms).1 = written.1.map (fun _ => text) ∧
      (w.applyFile name ms).2.1.files = written.2 ∧
      HoldsInOrder text.toList (insertions (Mutation.sweep ms).reverse) := by
  intro text written
  have hkept : ∀ m ∈ Mutation.sweep ms, m.isTextEdit = true :=
    fun m hm => hedits m (Order.mem_of_mem_sweep hm)
  have hedited := applyEach_spares hfind contents hkept (apart_sweep ms) hspares
  obtain ⟨hreturned, hwritten⟩ := Workspace.applyFile_edited hread hedited
  refine ⟨hreturned, hwritten, ?_⟩
  rw [show text.toList = editedSlice contents.toList 0 contents.toList.length _ from
    String.toList_ofList]
  exact holdsInOrder_editedSlice _ _ _ _

/-- Three kept edits past the end of a text of two characters: an insertion, a deletion behind
it and one of no characters in front of it; a swap within the text follows them. -/
theorem applyFile_holdsInsertions_past_end :
    let w := Workspace.single "a.txt" "hi"
    let ms : List Mutation := [.swap (.span 0 1) "H", .insert (.point 20) "abc",
      .delete (.span 9 12), .delete (.span 4 4)]
    w.resolver.lookup.EditsText ∧ (∀ m ∈ ms, m.isTextEdit = true) ∧
      Spares "hi".toList.length (Mutation.sweep ms) ∧
      (w.applyFile "a.txt" ms).1 = .ok "Hiabc" ∧
      HoldsInOrder "Hiabc".toList ["H".toList, "abc".toList] := by
  intro w ms
  have hfind : w.resolver.lookup.EditsText := ⟨rfl, rfl, rfl⟩
  have hedits : ∀ m ∈ ms, m.isTextEdit = true := by decide
  have hspares : Spares "hi".toList.length (Mutation.sweep ms) := by decide
  obtain ⟨hreturned, -, hholds⟩ :=
    applyFile_holdsInsertions w "a.txt" ms "hi" _ hfind hedits rfl hspares
  exact ⟨hfind, hedits, hspares, hreturned.trans rfl, hholds⟩

/-- A deletion past the end cuts the text that an insertion further past the end has put
there, though both are kept. -/
theorem applyFile_cuts_insertion :
    let w := Workspace.single "a.txt" "hi"
    let ms : List Mutation := [.delete (.span 3 5), .insert (.point 10) "abc"]
    Mutation.sweep ms = [.insert (.point 10) "abc", .delete (.span 3 5)] ∧
      (w.applyFile "a.txt" ms).1 = .ok "hia" ∧
      ¬ HoldsInOrder "hia".toList (insertions (Mutation.sweep ms).reverse) := by
  intro w ms
  have hfind : w.resolver.lookup.EditsText := ⟨rfl, rfl, rfl⟩
  have hinsert : (w.resolver.lookup.dispatch "hi" (.insert (.point 10) "abc")).result
      = .ok "hiabc" := by
    rw [hfind.dispatch rfl]
    rfl
  have hdelete : (w.resolver.lookup.dispatch "hiabc" (.delete (.span 3 5))).result
      = .ok "hia" := by
    rw [hfind.dispatch rfl]
    rfl
  have hedited : w.resolver.lookup.applyEach "hi" (Mutation.sweep ms) = .ok "hia" := by
    rw [show Mutation.sweep ms = [.insert (.point 10) "abc", .delete (.span 3 5)] from rfl,
      Lookup.applyEach_cons_ok hinsert, Lookup.applyEach_cons_ok hdelete, Lookup.applyEach_nil]
  refine ⟨rfl, (Workspace.applyFile_edited rfl hedited).1.trans rfl, ?_⟩
  intro hholds
  have hsublist : "abc".toList.Sublist "hia".toList := hholds.flatten_sublist
  revert hsublist
  decide

end EditWaves
