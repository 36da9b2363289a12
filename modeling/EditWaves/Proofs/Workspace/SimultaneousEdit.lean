import EditWaves.Proofs.Mutation.Sweep
import EditWaves.Proofs.Text.Splice
import EditWaves.Proofs.Workspace.Pipeline

/-!
# Edits from the end are edits of the original text

The edits of a file are applied one after another, each to the text that the one
before left behind, with offsets that were meant for the original.  From the end
towards the start this comes to applying all of them to the original at once,
which is what `simultaneousEdit` says in characters.

* `applyEach_descending` carries the invariant: what lies before the start of the edit
  applied last is still the original text, and every edit that is left fits into it.
* An edit past the end of the text is clamped against what the edits before it have left
  there.  `applyEach_spares` says for which edits this is no more than the end of the
  original (`Spares`); one such edit is, and `applyEach_eq_simultaneousEdit` allows it.
-/

open EditWaves.Text (slice slice_eq_drop slice_zero slice_length slice_of_length_le)

namespace EditWaves

/-! ## One text edit -/

namespace Mutation

/-- Whether a mutation deletes, inserts or swaps text. -/
def isTextEdit : Mutation → Bool
  | delete _ | insert _ _ | swap _ _ => true
  | replace _ _ _ | multiple _ _ | custom _ _ _ => false

/-- The text that an edit puts in. -/
def insertion : Mutation → String
  | insert _ text | swap _ text => text
  | delete _ | replace _ _ _ | multiple _ _ | custom _ _ _ => ""

/-- The position from which the original text goes on after an edit. -/
def resume : Mutation → Nat
  | insert r _ => r.start
  | m => m.effectiveEnd

theorem start_le_resume (m : Mutation) : m.start ≤ m.resume := by
  cases m with
  | insert r text => exact Nat.le_refl _
  | _ => exact EditRange.start_le_effectiveEnd _

theorem resume_le_effectiveEnd (m : Mutation) : m.resume ≤ m.effectiveEnd := by
  cases m with
  | insert r text => exact EditRange.start_le_effectiveEnd _
  | _ => exact Nat.le_refl _

end Mutation

/-- A lookup in which the tags of the text edits have their built-in mutators. -/
structure Lookup.EditsText (find : Lookup) : Prop where
  delete : find Tag.delete = some .delete
  insert : find Tag.insert = some .insert
  swap : find Tag.swap = some .swap

/-- A text edit is one splice. -/
theorem Lookup.EditsText.dispatch {find : Lookup} (hfind : find.EditsText) {m : Mutation}
    (hm : m.isTextEdit = true) (text : String) :
    (find.dispatch text m).result = .ok (Text.splice text m.start m.resume m.insertion) := by
  cases m with
  | delete r =>
    have hmutator : find (Mutation.delete r).tag = some .delete := hfind.delete
    rw [Lookup.dispatch_leaf hmutator rfl rfl]
    rfl
  | insert r x =>
    have hmutator : find (Mutation.insert r x).tag = some .insert := hfind.insert
    rw [Lookup.dispatch_leaf hmutator rfl rfl]
    rfl
  | swap r x =>
    have hmutator : find (Mutation.swap r x).tag = some .swap := hfind.swap
    rw [Lookup.dispatch_leaf hmutator rfl rfl]
    rfl
  | replace r search template => simp [Mutation.isTextEdit] at hm
  | multiple r children => simp [Mutation.isTextEdit] at hm
  | custom r tag fields => simp [Mutation.isTextEdit] at hm

/-! ## All edits at once -/

/-- The part of a text from `start` to before `stop`, in which edits given in ascending
order are applied to the original: up to the start of an edit the original, then the
insertion, then on from where the edit ends. -/
def editedSlice (s : List Char) (start stop : Nat) : List Mutation → List Char
  | [] => slice s start stop
  | m :: rest => slice s start m.start ++ m.insertion.toList ++ editedSlice s m.resume stop rest

/-- A text to which edits given in ascending order are applied at once. -/
def simultaneousEdit (contents : String) (ms : List Mutation) : String :=
  String.ofList (editedSlice contents.toList 0 contents.toList.length ms)

/-- The last edit splits off the text after it. -/
theorem editedSlice_concat (s : List Char) (start stop : Nat) (ms : List Mutation)
    (m : Mutation) :
    editedSlice s start stop (ms ++ [m]) =
      editedSlice s start m.start ms ++ m.insertion.toList ++ slice s m.resume stop := by
  induction ms generalizing start with
  | nil => rfl
  | cons k ms ih =>
    rw [List.cons_append, editedSlice, ih, editedSlice]
    simp only [List.append_assoc]

/-! ## From one edit to the next -/

/-- An edit inside the untouched front of a text leaves what is behind the front alone. -/
theorem splice_take_append {s tail : List Char} {start resume front : Nat} (insertion : String)
    (hstart : start ≤ resume) (hfront : resume ≤ front) (hend : resume ≤ s.length) :
    Text.splice (String.ofList (s.take front ++ tail)) start resume insertion
      = String.ofList (s.take start ++ (insertion.toList ++ slice s resume front ++ tail)) := by
  have hlen : (s.take front).length = min front s.length := List.length_take
  have hbefore : (s.take front ++ tail).take start = s.take start := by
    rw [List.take_append_of_le_length (by omega), List.take_take, Nat.min_eq_left (by omega)]
  have hafter : (s.take front ++ tail).drop resume = slice s resume front ++ tail := by
    rw [List.drop_append_of_le_length (by omega), slice_eq_drop]
  rw [← String.toList_inj, Text.toList_splice, String.toList_ofList, String.toList_ofList,
    Nat.max_eq_right hstart, hbefore, hafter]
  simp only [List.append_assoc]

/-- An edit of the whole text, which may lie past its end. -/
theorem splice_whole (s : String) {start resume : Nat} (insertion : String)
    (hstart : start ≤ resume) :
    Text.splice s start resume insertion
      = String.ofList (s.toList.take start
          ++ (insertion.toList ++ slice s.toList resume s.toList.length)) := by
  rw [← String.toList_inj, Text.toList_splice, String.toList_ofList, Nat.max_eq_right hstart,
    slice_length]
  simp only [List.append_assoc]

/-- An edit that puts nothing in and removes nothing has no effect. -/
theorem applyEach_cons_idle {find : Lookup} (hfind : find.EditsText) {contents : String}
    {m : Mutation} {rest : List Mutation} (hedit : m.isTextEdit = true) (hempty : m.insertion = "")
    (hidle : m.resume ≤ m.start ∨ contents.toList.length ≤ m.start) :
    find.applyEach contents (m :: rest) = find.applyEach contents rest := by
  have hstep := hfind.dispatch hedit contents
  rw [hempty, Text.splice_eq_self hidle] at hstep
  exact Lookup.applyEach_cons_ok hstep rest

/-- The order in which the sweep leaves edits: each ends before the one before it starts. -/
def Apart (ms : List Mutation) : Prop := ms.Pairwise (fun a b => b.effectiveEnd < a.start)

theorem apart_sweep (ms : List Mutation) : Apart (Mutation.sweep ms) := Order.pairwise_sweep ms

variable {find : Lookup}

/-- Edits in descending order that lie in the untouched front of a text are edits of the
original.  They may touch. -/
theorem applyEach_descending (hfind : find.EditsText) (s : List Char) {ms : List Mutation}
    {front : Nat} (tail : List Char) (hedits : ∀ m ∈ ms, m.isTextEdit = true)
    (hms : ms.Pairwise (fun a b => b.resume ≤ a.start))
    (hfront : ∀ m ∈ ms, m.resume ≤ front) (hend : ∀ m ∈ ms, m.resume ≤ s.length) :
    find.applyEach (String.ofList (s.take front ++ tail)) ms
      = .ok (String.ofList (editedSlice s 0 front ms.reverse ++ tail)) := by
  induction ms generalizing front tail with
  | nil => rw [Lookup.applyEach_nil, List.reverse_nil, editedSlice, slice_zero]
  | cons m rest ih =>
    obtain ⟨hm, hrest⟩ := List.pairwise_cons.1 hms
    have hmfront : m.resume ≤ front := hfront m List.mem_cons_self
    have hmend : m.resume ≤ s.length := hend m List.mem_cons_self
    have hstep := hfind.dispatch (hedits m List.mem_cons_self)
      (String.ofList (s.take front ++ tail))
    rw [splice_take_append m.insertion m.start_le_resume hmfront hmend] at hstep
    rw [Lookup.applyEach_cons_ok hstep,
      ih _ (fun k hk => hedits k (List.mem_cons_of_mem _ hk)) hrest hm
        (fun k hk => hend k (List.mem_cons_of_mem _ hk)),
      List.reverse_cons, editedSlice_concat]
    simp only [List.append_assoc]

theorem Apart.descending {ms : List Mutation} (hms : Apart ms) :
    ms.Pairwise (fun a b => b.resume ≤ a.start) := by
  refine hms.imp ?_
  intro a b hlt
  have hb := b.resume_le_effectiveEnd
  omega

/-! ## Edits past the end -/

/-- An edit leaves text `x` alone that stands behind the first `n` characters: it goes on
from a position before that text, or it puts nothing in and removes nothing up to the end of
the text. -/
def LeavesText (n : Nat) (x : String) (m : Mutation) : Prop :=
  x = "" ∨ m.resume ≤ n ∨
    m.insertion = "" ∧ (m.resume ≤ m.start ∨ n + x.toList.length ≤ m.start)

instance (n : Nat) (x : String) (m : Mutation) : Decidable (LeavesText n x m) :=
  inferInstanceAs (Decidable (x = "" ∨ m.resume ≤ n ∨
    m.insertion = "" ∧ (m.resume ≤ m.start ∨ n + x.toList.length ≤ m.start)))

/-- No edit gets into text that one applied before it has put behind the first `n`
characters. -/
def Spares (n : Nat) (ms : List Mutation) : Prop :=
  ms.Pairwise (fun a b => LeavesText n a.insertion b)

instance (n : Nat) (ms : List Mutation) : Decidable (Spares n ms) :=
  inferInstanceAs (Decidable (ms.Pairwise (fun a b => LeavesText n a.insertion b)))

/-- A text has nothing behind its end. -/
theorem editedSlice_of_length_le {s : List Char} {stop : Nat} (h : s.length ≤ stop)
    (start : Nat) (ms : List Mutation) :
    editedSlice s start stop ms = editedSlice s start s.length ms := by
  induction ms generalizing start with
  | nil =>
    rw [editedSlice, editedSlice, slice_eq_drop, slice_eq_drop, List.take_of_length_le h,
      List.take_length]
  | cons m ms ih => rw [editedSlice, editedSlice, ih]

theorem simultaneousEdit_nil (contents : String) : simultaneousEdit contents [] = contents := by
  rw [simultaneousEdit, editedSlice, slice_length, List.drop_zero, String.ofList_toList]

section Past

variable {contents : String} {m : Mutation} {ms rest : List Mutation}

/-- A last edit that reaches past the end leaves nothing behind its text. -/
theorem simultaneousEdit_concat_past (hpast : contents.toList.length ≤ m.resume) :
    simultaneousEdit contents (ms ++ [m])
      = String.ofList (editedSlice contents.toList 0 m.start ms ++ m.insertion.toList) := by
  rw [simultaneousEdit, editedSlice_concat, slice_of_length_le _ hpast, List.append_nil]

/-- A last edit past the end puts its text behind all others. -/
theorem simultaneousEdit_concat_behind (hbehind : contents.toList.length ≤ m.start) :
    simultaneousEdit contents (ms ++ [m]) = simultaneousEdit contents ms ++ m.insertion := by
  have hpast := Nat.le_trans hbehind m.start_le_resume
  rw [simultaneousEdit_concat_past hpast, editedSlice_of_length_le hbehind, String.ofList_append,
    String.ofList_toList, simultaneousEdit]

variable (hfind : find.EditsText) (hedits : ∀ k ∈ m :: rest, k.isTextEdit = true)

include hfind

/-- Edits that touch at most and lie within the text are edits of the original, whatever
stands behind it. -/
theorem applyEach_within (x : String) (hedits : ∀ m ∈ ms, m.isTextEdit = true)
    (hms : ms.Pairwise (fun a b => b.resume ≤ a.start))
    (hend : ∀ m ∈ ms, m.resume ≤ contents.toList.length) :
    find.applyEach (contents ++ x) ms = .ok (simultaneousEdit contents ms.reverse ++ x) := by
  have happly := applyEach_descending hfind contents.toList x.toList hedits hms hend hend
  rw [List.take_length, String.ofList_append, String.ofList_append, String.ofList_toList,
    String.ofList_toList] at happly
  exact happly

include hedits

/-- The first edit that reaches past the end puts its text behind what it leaves of the
original, and the others follow before it. -/
theorem applyEach_cons_past (hms : Apart (m :: rest)) (hstart : m.start ≤ contents.toList.length)
    (hpast : contents.toList.length ≤ m.resume) :
    find.applyEach contents (m :: rest)
      = .ok (simultaneousEdit contents (m :: rest).reverse) := by
  obtain ⟨hm, hrest⟩ := List.pairwise_cons.1 hms
  have hbefore : ∀ k ∈ rest, k.resume ≤ m.start := by
    intro k hk
    have hkm := hm k hk
    have hkend := k.resume_le_effectiveEnd
    omega
  have hstep := hfind.dispatch (hedits m List.mem_cons_self) contents
  rw [splice_whole contents m.insertion m.start_le_resume, slice_of_length_le _ hpast,
    List.append_nil] at hstep
  rw [Lookup.applyEach_cons_ok hstep, List.reverse_cons, simultaneousEdit_concat_past hpast]
  exact applyEach_descending hfind contents.toList m.insertion.toList
    (fun k hk => hedits k (List.mem_cons_of_mem _ hk)) (Apart.descending hrest) hbefore
    (fun k hk => Nat.le_trans (hbefore k hk) hstart)

/-- An edit past the end puts its text there. -/
theorem applyEach_cons_behind (hbehind : contents.toList.length ≤ m.start) :
    find.applyEach contents (m :: rest) = find.applyEach (contents ++ m.insertion) rest := by
  have hpast := Nat.le_trans hbehind m.start_le_resume
  have hstep := hfind.dispatch (hedits m List.mem_cons_self) contents
  rw [splice_whole contents m.insertion m.start_le_resume, slice_of_length_le _ hpast,
    List.append_nil, List.take_of_length_le hbehind, String.ofList_append, String.ofList_toList,
    String.ofList_toList] at hstep
  exact Lookup.applyEach_cons_ok hstep rest

end Past

/-- Edits in descending order that leave alone what stands behind the text, and what they put
there themselves, are edits of the original.  The induction follows the edits past the end, and
ends with the first that starts or goes on within the text. -/
theorem applyEach_append (hfind : find.EditsText) (contents x : String) {ms : List Mutation}
    (hedits : ∀ m ∈ ms, m.isTextEdit = true) (hms : Apart ms)
    (hspares : Spares contents.toList.length ms)
    (hx : ∀ m ∈ ms, LeavesText contents.toList.length x m) :
    find.applyEach (contents ++ x) ms = .ok (simultaneousEdit contents ms.reverse ++ x) := by
  induction ms generalizing x with
  | nil => rw [Lookup.applyEach_nil, List.reverse_nil, simultaneousEdit_nil]
  | cons m rest ih =>
    obtain ⟨hm, hrest⟩ := List.pairwise_cons.1 hms
    obtain ⟨hmspares, hrestspares⟩ := List.pairwise_cons.1 hspares
    have hrestedits : ∀ k ∈ rest, k.isTextEdit = true :=
      fun k hk => hedits k (List.mem_cons_of_mem _ hk)
    have hmresume := m.start_le_resume
    by_cases hwithin : m.resume ≤ contents.toList.length
    · refine applyEach_within hfind x hedits hms.descending ?_
      intro k hk
      rcases List.mem_cons.1 hk with rfl | hk
      · exact hwithin
      · have hkm := hm k hk
        have hkend := k.resume_le_effectiveEnd
        omega
    · have hpast : contents.toList.length ≤ m.resume := by omega
      rcases hx m List.mem_cons_self with rfl | hle | ⟨hempty, hidle⟩
      · -- Nothing stands behind the text yet.
        rw [String.append_empty, String.append_empty]
        rcases Nat.le_total contents.toList.length m.start with hbehind | hstart
        · rw [applyEach_cons_behind hfind hedits hbehind,
            ih m.insertion hrestedits hrest hrestspares hmspares, List.reverse_cons,
            simultaneousEdit_concat_behind hbehind]
        · exact applyEach_cons_past hfind hedits hms hstart hpast
      · exact absurd hle hwithin
      · have hbehind : contents.toList.length ≤ m.start := by omega
        have hlength : (contents ++ x).toList.length = contents.toList.length + x.toList.length := by
          rw [String.toList_append, List.length_append]
        rw [applyEach_cons_idle hfind (hedits m List.mem_cons_self) hempty (hlength ▸ hidle),
          ih x hrestedits hrest hrestspares (fun k hk => hx k (List.mem_cons_of_mem _ hk)),
          List.reverse_cons, simultaneousEdit_concat_behind hbehind, hempty, String.append_empty]

/-- Edits in descending order that spare each other's text, applied one after another, are the
edits applied at once. -/
theorem applyEach_spares (hfind : find.EditsText) (contents : String) {ms : List Mutation}
    (hedits : ∀ m ∈ ms, m.isTextEdit = true) (hms : Apart ms)
    (hspares : Spares contents.toList.length ms) :
    find.applyEach contents ms = .ok (simultaneousEdit contents ms.reverse) := by
  have happly := applyEach_append hfind contents "" hedits hms hspares (fun _ _ => .inl rfl)
  rwa [String.append_empty, String.append_empty] at happly

/-- Of edits in descending order only the first can reach past the end of the text if at
most one of them does. -/
theorem effectiveEnd_le_of_mem_tail {n : Nat} {m : Mutation} {rest : List Mutation}
    (hms : Apart (m :: rest))
    (hpast : ((m :: rest).filter (fun k => n < k.effectiveEnd)).length ≤ 1) :
    ∀ k ∈ rest, k.effectiveEnd ≤ n := by
  intro k hk
  by_contra hlt
  have hkm : k.effectiveEnd < m.start := (List.pairwise_cons.1 hms).1 k hk
  have hm : m.start ≤ m.effectiveEnd := m.range.start_le_effectiveEnd
  have hkpast : k ∈ rest.filter (fun k => n < k.effectiveEnd) :=
    List.mem_filter.2 ⟨hk, decide_eq_true (by omega)⟩
  have hpos := List.length_pos_of_mem hkpast
  have hmpast : decide (n < m.effectiveEnd) = true := decide_eq_true (by omega)
  rw [List.filter_cons, if_pos hmpast, List.length_cons] at hpast
  omega

/-- If at most one edit reaches past the end, none gets into text behind it. -/
theorem spares_of_one_past {n : Nat} {ms : List Mutation} (hms : Apart ms)
    (hpast : (ms.filter (fun m => n < m.effectiveEnd)).length ≤ 1) : Spares n ms := by
  induction ms with
  | nil => exact .nil
  | cons m rest ih =>
    have hrestpast : (rest.filter (fun k => n < k.effectiveEnd)).length ≤ 1 :=
      Nat.le_trans ((List.sublist_cons_self m rest).filter _).length_le hpast
    refine List.pairwise_cons.2 ⟨?_, ih (List.pairwise_cons.1 hms).2 hrestpast⟩
    intro k hk
    have hkend := effectiveEnd_le_of_mem_tail hms hpast k hk
    exact .inr (.inl (Nat.le_trans k.resume_le_effectiveEnd hkend))

/-- Edits in descending order, of which at most one reaches past the end, applied one
after another are the edits applied at once. -/
theorem applyEach_eq_simultaneousEdit (hfind : find.EditsText) (contents : String)
    {ms : List Mutation} (hedits : ∀ m ∈ ms, m.isTextEdit = true) (hms : Apart ms)
    (hpast : (ms.filter (fun m => contents.toList.length < m.effectiveEnd)).length ≤ 1) :
    find.applyEach contents ms = .ok (simultaneousEdit contents ms.reverse) :=
  applyEach_spares hfind contents hedits hms (spares_of_one_past hms hpast)

/-! ## A file -/

/-- Applying text edits to a file writes the contents to which all kept edits are applied
at once, and returns them if they are written.  At most one of the kept edits may reach
past the end of what was read. -/
theorem applyFile_simultaneousEdit {φ : Type} [FileAccess φ] (w : Workspace φ) (name : String)
    (ms : List Mutation) (contents : String) (files : φ)
    (hfind : w.resolver.lookup.EditsText) (hedits : ∀ m ∈ ms, m.isTextEdit = true)
    (hread : FileAccess.read w.files name = (.ok contents, files))
    (hpast : ((Mutation.sweep ms).filter
      (fun m => contents.toList.length < m.effectiveEnd)).length ≤ 1) :
    let text := simultaneousEdit contents (Mutation.sweep ms).reverse
    let written := FileAccess.write files name text
    (w.applyFile name ms).1 = written.1.map (fun _ => text) ∧
      (w.applyFile name ms).2.1.files = written.2 := by
  have hkept : ∀ m ∈ Mutation.sweep ms, m.isTextEdit = true :=
    fun m hm => hedits m (Order.mem_of_mem_sweep hm)
  exact Workspace.applyFile_edited hread
    (applyEach_eq_simultaneousEdit hfind contents hkept (apart_sweep ms) hpast)

/-- An insertion past the end, a swap whose end precedes its begin and a deletion, with one
more deletion that touches the swap and is dropped. -/
theorem applyFile_simultaneousEdit_hello :
    let w := Workspace.single "a.txt" "hello"
    let ms : List Mutation := [.delete (.span 2 3), .delete (.span 0 1), .insert (.point 9) "!",
      .swap ⟨3, some 1⟩ "é"]
    w.resolver.lookup.EditsText ∧ (∀ m ∈ ms, m.isTextEdit = true) ∧
      ((Mutation.sweep ms).filter (fun m => "hello".toList.length < m.effectiveEnd)).length ≤ 1 ∧
      (w.applyFile "a.txt" ms).1 = .ok "elélo!" ∧
      (w.applyFile "a.txt" ms).2.1.files.contents.get? "a.txt" = some "elélo!" := by
  intro w ms
  have hfind : w.resolver.lookup.EditsText := ⟨rfl, rfl, rfl⟩
  have hedits : ∀ m ∈ ms, m.isTextEdit = true := by decide
  have hpast : ((Mutation.sweep ms).filter
      (fun m => "hello".toList.length < m.effectiveEnd)).length ≤ 1 := by decide
  obtain ⟨hreturned, hwritten⟩ :=
    applyFile_simultaneousEdit w "a.txt" ms "hello" _ hfind hedits rfl hpast
  refine ⟨hfind, hedits, hpast, hreturned.trans rfl, ?_⟩
  rw [hwritten]
  rfl

end EditWaves
