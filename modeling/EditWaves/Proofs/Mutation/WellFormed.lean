import EditWaves.Proofs.Mutation.Acceptance

/-!
# Well-formed mutations

A mutation is well-formed if its ranges run forwards, custom types do not use a built-in
tag, and custom fields do not use the keys `range` and `type`, at every depth.  Offsets are
natural numbers here but have 64 bits in a document, so their bound is part of it.

The main results are about the decoders: whatever they return is well-formed.

* `Json.DenotesMutation.wellFormed`: what a value stands for, along the grammar.
* `Mutation.wellFormed_of_ofJson`, `Mutation.wellFormed_of_listOfJson`,
  `FileMutations.wellFormed_of_ofJson` and `Wave.wellFormed_of_ofJson`, since the decoders
  return nothing else.
-/

namespace EditWaves

/-! ## Definitions -/

/-- A range that a document can hold. -/
structure EditRange.WellFormed (r : EditRange) : Prop where
  forward : r.isForward = true
  start_lt : r.start < offsetLimit
  stop_lt : ∀ stop, r.stop = some stop → stop < offsetLimit

namespace Mutation

/-- Fields none of which is common to all kinds of mutations. -/
def HeadFree (fields : Dict Json) : Prop := ∀ key, isHeadKey key = true → fields.get? key = none

/-- A mutation that a document can hold. -/
inductive WellFormed : Mutation → Prop where
  | delete {r : EditRange} (hr : r.WellFormed) : WellFormed (.delete r)
  | insert {r : EditRange} {insertion : String} (hr : r.WellFormed) :
      WellFormed (.insert r insertion)
  | replace {r : EditRange} {search template : String} (hr : r.WellFormed) :
      WellFormed (.replace r search template)
  | swap {r : EditRange} {insertion : String} (hr : r.WellFormed) : WellFormed (.swap r insertion)
  | multiple {r : EditRange} {children : List Mutation} (hr : r.WellFormed)
      (hchildren : ∀ c ∈ children, WellFormed c) : WellFormed (.multiple r children)
  | custom {r : EditRange} {tag : String} {fields : Dict Json} (hr : r.WellFormed)
      (htag : tag ∉ Tag.builtin) (hfields : HeadFree fields) : WellFormed (.custom r tag fields)

theorem WellFormed.range {m : Mutation} (h : m.WellFormed) : m.range.WellFormed := by
  cases h with
  | delete hr | insert hr | replace hr | swap hr => exact hr
  | multiple hr _ => exact hr
  | custom hr _ _ => exact hr

end Mutation

/-- Mutations by file, all of which are well-formed. -/
def FileMutations.WellFormed (files : FileMutations) : Prop :=
  ∀ name ms, files.get? name = some ms → ∀ m ∈ ms, m.WellFormed

/-- A wave whose mutations, if it has files, are well-formed. -/
def Wave.WellFormed (w : Wave) : Prop := ∀ files, w.files = some files → files.WellFormed

/-! ## What the grammar stands for -/

theorem Json.EndsRange.le {start : Nat} {said : Option Json} {stop : Option Nat}
    (h : EndsRange start said stop) : ∀ n, stop = some n → start ≤ n ∧ n < offsetLimit := by
  cases h with
  | absent | null => nofun
  | offset hle hlt =>
    rintro n ⟨⟩
    exact ⟨hle, hlt⟩

theorem EditRange.wellFormed_of_le {start : Nat} {stop : Option Nat} (hstart : start < offsetLimit)
    (hstop : ∀ n, stop = some n → start ≤ n ∧ n < offsetLimit) :
    (EditRange.mk start stop).WellFormed := by
  refine ⟨?_, hstart, fun n hn => (hstop n hn).2⟩
  cases stop with
  | none => rfl
  | some n => exact decide_eq_true (hstop n rfl).1

/-- A range that a value stands for is well-formed. -/
theorem Json.DenotesRange.wellFormed {v : Json} {r : EditRange} (h : v.DenotesRange r) :
    r.WellFormed := by
  cases h with
  | object hbegin hlt hend => exact EditRange.wellFormed_of_le hlt hend.le
  | array hlength hlt hend => exact EditRange.wellFormed_of_le hlt hend.le

theorem Json.HasHead.wellFormed {fields : List (String × Json)} {range : EditRange} {tag : String}
    (h : HasHead fields range tag) : range.WellFormed := by
  obtain ⟨v, -, hv⟩ := h.range
  exact hv.wellFormed

/-- The fields beside the range and the type have no key that is common to all kinds. -/
theorem Json.headFree_otherFields (fields : List (String × Json)) :
    Mutation.HeadFree (otherFields fields) := by
  intro key hkey
  rw [get?_otherFields, if_pos hkey]

mutual

/-- A mutation that a value stands for is well-formed. -/
theorem Json.DenotesMutation.wellFormed {v : Json} {m : Mutation} (h : v.DenotesMutation m) :
    m.WellFormed := by
  cases h with
  | delete hhead => exact .delete hhead.wellFormed
  | insert hhead hinsertion => exact .insert hhead.wellFormed
  | replace hhead hsearch hreplace => exact .replace hhead.wellFormed
  | swap hhead hinsertion => exact .swap hhead.wellFormed
  | multiple hhead hmutations hitems => exact .multiple hhead.wellFormed hitems.wellFormed
  | custom hhead htag => exact .custom hhead.wellFormed htag (headFree_otherFields _)

theorem Json.DenotesItems.wellFormed {items : List Json} {ms : List Mutation}
    (h : DenotesItems items ms) : ∀ m ∈ ms, m.WellFormed := by
  cases h with
  | nil => nofun
  | cons hitem hitems => exact List.forall_mem_cons.2 ⟨hitem.wellFormed, hitems.wellFormed⟩

end

theorem Json.DenotesMutations.wellFormed {v : Json} {ms : List Mutation}
    (h : v.DenotesMutations ms) : ∀ m ∈ ms, m.WellFormed := by
  obtain ⟨hitems⟩ := h
  exact hitems.wellFormed

/-- Mutations by file that a value stands for are well-formed. -/
theorem Json.DenotesFiles.wellFormed {v : Json} {files : FileMutations} (h : v.DenotesFiles files) :
    files.WellFormed := by
  obtain @⟨fields, entries, hentries⟩ := h
  have hwell : ∀ e ∈ entries, ∀ m ∈ e.2, m.WellFormed := by
    induction hentries with
    | nil => nofun
    | cons hentry hrest ih => exact List.forall_mem_cons.2 ⟨hentry.2.wellFormed, ih⟩
  intro name ms hget
  exact hwell (name, ms) (Dict.mem_of_mem_ofList (Dict.mem_of_find?_eq_some hget))

theorem Json.FillsWave.wellFormed {said : Option Json} {files : Option FileMutations}
    (h : FillsWave said files) : Wave.WellFormed ⟨files⟩ := by
  rintro present ⟨⟩
  cases h with
  | files hfiles => exact hfiles.wellFormed

/-- A wave that a value stands for is well-formed. -/
theorem Json.DenotesWave.wellFormed {v : Json} {w : Wave} (h : v.DenotesWave w) :
    w.WellFormed := by
  cases h with
  | object hfiles => exact hfiles.wellFormed
  | array hlength hfiles => exact hfiles.wellFormed

/-! ## What the decoders return -/

namespace Mutation

/-- A mutation that is read is well-formed. -/
theorem wellFormed_of_ofJson (v : Json) (m : Mutation) (h : ofJson v = .ok m) : m.WellFormed :=
  (ofJson_eq_ok_iff.1 h).wellFormed

theorem wellFormed_of_listOfJson (v : Json) (ms : List Mutation) (h : listOfJson v = .ok ms) :
    ∀ m ∈ ms, m.WellFormed :=
  (listOfJson_eq_ok_iff_denotes.1 h).wellFormed

end Mutation

/-- Mutations by file that are read are well-formed. -/
theorem FileMutations.wellFormed_of_ofJson {v : Json} {files : FileMutations}
    (h : ofJson v = .ok files) : files.WellFormed :=
  (ofJson_eq_ok_iff.1 h).wellFormed

/-- A wave that is read is well-formed. -/
theorem Wave.wellFormed_of_ofJson {v : Json} {w : Wave} (h : ofJson v = .ok w) : w.WellFormed :=
  (ofJson_eq_ok_iff.1 h).wellFormed

end EditWaves
