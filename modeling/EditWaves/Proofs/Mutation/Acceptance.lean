import EditWaves.Proofs.Mutation.Grammar

/-!
# What the decoders accept

The decoders read exactly the values of the grammar, and read them as what they stand for.
For mutations one direction follows the recursion of the decoder and the other the derivation
in the grammar; lists, mutations by file and waves are read item by item.

* `Mutation.ofJson_of_head`: a mutation is read from its head and the children in it.
* `Mutation.denotes_of_ofJson` and `Mutation.ofJson_of_denotes`.
* `decoders_eq_ok_iff`: all four decoders.
-/

namespace EditWaves

open Json (HasHead otherFields DenotesMutation DenotesItems)

namespace Mutation

/-! ## Children -/

/-- The children that the fields of a head hold. -/
def Head.children (head : Head) : Except DecodeError (List Mutation) :=
  match head.fields.get? childrenKey with
  | none => .error (.mutation (.missingField head.tag childrenKey))
  | some w => (listOfJson w).mapError head.childFault

/-- A mutation is read from its head and the children that the head holds. -/
theorem ofJson_of_head {v : Json} {head : Head} (h : Head.ofJson v = .ok head) :
    ofJson v = head.toMutation head.children := by
  rw [ofJson]
  split
  next fault hfault => rw [h] at hfault; cases hfault
  next other hother =>
    rw [h] at hother
    cases hother
    congr 1
    unfold Head.children
    split
    next hnone => rw [hnone]
    next w hw => rw [hw]

theorem exists_head_of_ofJson {v : Json} {m : Mutation} (h : ofJson v = .ok m) :
    ∃ head, Head.ofJson v = .ok head ∧ head.toMutation head.children = .ok m := by
  cases hhead : Head.ofJson v with
  | error fault =>
    rw [ofJson] at h
    split at h
    next => cases h
    next head hhead' => rw [hhead] at hhead'; cases hhead'
  | ok head =>
    rw [ofJson_of_head hhead] at h
    exact ⟨head, rfl, h⟩

theorem listOfJson_eq_ok_iff {v : Json} {ms : List Mutation} :
    listOfJson v = .ok ms ↔ ∃ items, v = .array items ∧ ofItems items = .ok ms := by
  constructor
  · intro h
    unfold listOfJson at h
    split at h
    next items => exact ⟨items, rfl, h⟩
    next => cases h
  · rintro ⟨items, rfl, h⟩
    rw [listOfJson]
    exact h

theorem Head.children_eq_ok_iff {head : Head} {ms : List Mutation} :
    head.children = .ok ms ↔
      ∃ items, head.fields.get? childrenKey = some (.array items) ∧ ofItems items = .ok ms := by
  unfold children
  split
  next hnone => simp [hnone]
  next w hw =>
    constructor
    · intro h
      obtain ⟨items, rfl, hitems⟩ := listOfJson_eq_ok_iff.1 (Result.mapError_eq_ok h)
      exact ⟨items, hw, hitems⟩
    · rintro ⟨items, hget, hitems⟩
      rw [hw] at hget
      cases hget
      rw [listOfJson_eq_ok_iff.2 ⟨items, rfl, hitems⟩]
      rfl

/-! ## Mutations -/

/-- What a head is made into is what its object stands for, if this holds of its children. -/
theorem denotes_of_makes {fields : List (String × Json)} {head : Head} {m : Mutation}
    (hhead : HasHead fields head.range head.tag) (hfields : head.fields = otherFields fields)
    (hitems : ∀ items ms, head.fields.get? Head.childrenKey = some (.array items) →
      ofItems items = .ok ms → DenotesItems items ms)
    (h : head.Makes head.children m) : (Json.object fields).DenotesMutation m := by
  rcases head with ⟨range, tag, others⟩
  cases hfields
  cases h with
  | delete htag =>
    cases htag
    exact .delete hhead
  | insert htag hinsertion =>
    cases htag
    exact .insert hhead hinsertion
  | replace htag hsearch hreplace =>
    cases htag
    exact .replace hhead hsearch hreplace
  | swap htag hinsertion =>
    cases htag
    exact .swap hhead hinsertion
  | multiple htag hchildren =>
    cases htag
    obtain ⟨items, hget, hms⟩ := Head.children_eq_ok_iff.1 hchildren
    exact .multiple hhead hget (hitems items _ hget hms)
  | custom htag => exact .custom hhead htag

mutual

/-- A value that is read as a mutation stands for it. -/
theorem denotes_of_ofJson (v : Json) (m : Mutation) (h : ofJson v = .ok m) :
    v.DenotesMutation m := by
  obtain ⟨head, hread, hmade⟩ := exists_head_of_ofJson h
  obtain ⟨fields, hv, hhead, hfields⟩ := Head.ofJson_eq_ok_iff.1 hread
  rw [hv]
  refine denotes_of_makes hhead hfields ?_ (Head.toMutation_eq_ok_iff.1 hmade)
  intro items ms hget hms
  exact denotes_of_ofItems items ms hms
termination_by (sizeOf v, 0)
decreasing_by
  have hlt := Head.sizeOf_get?_lt hread hget
  simp only [Json.array.sizeOf_spec] at hlt
  exact Prod.Lex.left _ _ (by omega)

theorem denotes_of_ofItems (items : List Json) (ms : List Mutation) (h : ofItems items = .ok ms) :
    DenotesItems items ms := by
  match items with
  | [] =>
    rw [ofItems] at h
    cases h
    exact .nil
  | item :: rest =>
    rw [ofItems] at h
    obtain ⟨first, hfirst, h⟩ := Result.bind_eq_ok h
    obtain ⟨others, hothers, h⟩ := Result.bind_eq_ok h
    cases h
    exact .cons (denotes_of_ofJson item first hfirst) (denotes_of_ofItems rest others hothers)
termination_by (sizeOf items, 0)
decreasing_by
  all_goals
    apply Prod.Lex.left
    simp
    try omega

end

/-- A mutation is read from an object if a head of it is made into the mutation. -/
theorem ofJson_of_makes {fields : List (String × Json)} {range : EditRange} {tag : String}
    {m : Mutation} (hhead : HasHead fields range tag)
    (h : (Head.mk range tag (otherFields fields)).Makes
      (Head.mk range tag (otherFields fields)).children m) : ofJson (.object fields) = .ok m := by
  have hread : Head.ofJson (.object fields) = .ok ⟨range, tag, otherFields fields⟩ :=
    Head.ofJson_eq_ok_iff.2 ⟨fields, rfl, hhead, rfl⟩
  rw [ofJson_of_head hread]
  exact Head.toMutation_eq_ok_iff.2 h

mutual

/-- A value that stands for a mutation is read as it. -/
theorem ofJson_of_denotes {v : Json} {m : Mutation} (h : v.DenotesMutation m) :
    ofJson v = .ok m := by
  cases h with
  | delete hhead => exact ofJson_of_makes hhead (.delete rfl)
  | insert hhead hinsertion => exact ofJson_of_makes hhead (.insert rfl hinsertion)
  | replace hhead hsearch hreplace => exact ofJson_of_makes hhead (.replace rfl hsearch hreplace)
  | swap hhead hinsertion => exact ofJson_of_makes hhead (.swap rfl hinsertion)
  | multiple hhead hmutations hitems =>
    have hread := ofItems_of_denotes hitems
    exact ofJson_of_makes hhead (.multiple rfl (Head.children_eq_ok_iff.2 ⟨_, hmutations, hread⟩))
  | custom hhead htag => exact ofJson_of_makes hhead (.custom htag)

theorem ofItems_of_denotes {items : List Json} {ms : List Mutation} (h : DenotesItems items ms) :
    ofItems items = .ok ms := by
  cases h with
  | nil => rw [ofItems]
  | cons hitem hitems =>
    rw [ofItems, ofJson_of_denotes hitem, ofItems_of_denotes hitems]
    rfl

end

theorem ofJson_eq_ok_iff {v : Json} {m : Mutation} : ofJson v = .ok m ↔ v.DenotesMutation m :=
  ⟨denotes_of_ofJson v m, ofJson_of_denotes⟩

theorem listOfJson_eq_ok_iff_denotes {v : Json} {ms : List Mutation} :
    listOfJson v = .ok ms ↔ v.DenotesMutations ms := by
  rw [listOfJson_eq_ok_iff]
  constructor
  · rintro ⟨items, rfl, h⟩
    exact .array (denotes_of_ofItems items ms h)
  · rintro ⟨hitems⟩
    exact ⟨_, rfl, ofItems_of_denotes hitems⟩

end Mutation

/-! ## Files and waves -/

namespace FileMutations

theorem ofFields_eq_ok_iff {fields : List (String × Json)}
    {entries : List (String × List Mutation)} :
    ofFields fields = .ok entries ↔ List.Forall₂ (fun field entry => field.1 = entry.1 ∧
      field.2.DenotesMutations entry.2) fields entries := by
  constructor
  · intro h
    induction fields generalizing entries with
    | nil =>
      cases h
      exact .nil
    | cons field rest ih =>
      obtain ⟨name, v⟩ := field
      obtain ⟨ms, hms, h⟩ := Result.bind_eq_ok h
      obtain ⟨others, hothers, h⟩ := Result.bind_eq_ok h
      cases h
      exact .cons ⟨rfl, Mutation.listOfJson_eq_ok_iff_denotes.1 hms⟩ (ih hothers)
  · intro h
    induction h with
    | nil => rfl
    | @cons field entry fields entries hentry hentries ih =>
      obtain ⟨name, v⟩ := field
      obtain ⟨key, ms⟩ := entry
      obtain ⟨rfl, hms⟩ := hentry
      rw [ofFields, Mutation.listOfJson_eq_ok_iff_denotes.2 hms, ih]
      rfl

theorem ofJson_eq_ok_iff {v : Json} {files : FileMutations} :
    ofJson v = .ok files ↔ v.DenotesFiles files := by
  constructor
  · intro h
    unfold ofJson at h
    split at h
    next fields =>
      obtain ⟨entries, hentries, rfl⟩ := Result.map_eq_ok h
      exact .object (ofFields_eq_ok_iff.1 hentries)
    next => cases h
  · rintro ⟨hentries⟩
    rw [ofJson, ofFields_eq_ok_iff.2 hentries]
    rfl

end FileMutations

namespace Wave

theorem filesOrNull_eq_ok_iff {v : Json} {files : Option FileMutations} :
    filesOrNull v = .ok files ↔ Json.FillsWave (some v) files := by
  by_cases hnull : v = .null
  · subst hnull
    constructor
    · rintro ⟨⟩
      exact .null
    · intro h
      cases h with
      | null => rfl
      | files hfiles => cases hfiles
  · rw [filesOrNull]
    · constructor
      · intro h
        obtain ⟨present, hpresent, rfl⟩ := Result.map_eq_ok h
        exact .files (FileMutations.ofJson_eq_ok_iff.1 hpresent)
      · intro h
        cases h with
        | null => exact absurd rfl hnull
        | files hfiles =>
          rw [FileMutations.ofJson_eq_ok_iff.2 hfiles]
          rfl
    · exact hnull

/-- What is said about the files of a wave is read as it says. -/
theorem fillsWave_iff {said : Option Json} {files : Option FileMutations} :
    Json.FillsWave said files ↔ ∃ read, said.mapM filesOrNull = .ok read ∧
      files = read.getD none := by
  constructor
  · intro h
    cases said with
    | none =>
      cases h
      exact ⟨none, rfl, rfl⟩
    | some v =>
      refine ⟨some files, ?_, rfl⟩
      rw [Option.mapM_some, filesOrNull_eq_ok_iff.2 h]
      rfl
  · rintro ⟨read, hread, rfl⟩
    obtain ⟨rfl, rfl⟩ | ⟨v, files, rfl, hfiles, rfl⟩ := Result.mapM_eq_ok hread
    · exact .absent
    · exact filesOrNull_eq_ok_iff.1 hfiles

theorem denotes_of_ofJson {v : Json} {w : Wave} (h : ofJson v = .ok w) : v.DenotesWave w := by
  unfold ofJson at h
  split at h
  next fields =>
    obtain ⟨read, hread, h⟩ := Result.bind_eq_ok h
    cases h
    exact .object (fillsWave_iff.2 ⟨read, hread, rfl⟩)
  next =>
    cases h
    exact .array (Nat.zero_le 1) .absent
  next first rest =>
    obtain ⟨files, hfiles, h⟩ := Result.bind_eq_ok h
    split at h
    next hempty =>
      cases h
      rw [List.isEmpty_iff.1 hempty]
      exact .array (Nat.le_refl 1) (filesOrNull_eq_ok_iff.1 hfiles)
    next => cases h
  next => cases h

theorem ofJson_of_denotes {v : Json} {w : Wave} (h : v.DenotesWave w) : ofJson v = .ok w := by
  cases h with
  | object hfiles =>
    obtain ⟨read, hread, rfl⟩ := fillsWave_iff.1 hfiles
    rw [ofJson, hread]
    rfl
  | @array items files hlength hfiles =>
    cases items with
    | nil =>
      cases hfiles
      rfl
    | cons first rest =>
      obtain rfl : rest = [] :=
        List.length_eq_zero_iff.1 (Nat.le_zero.1 (Nat.le_of_succ_le_succ hlength))
      rw [ofJson, filesOrNull_eq_ok_iff.2 hfiles]
      rfl

theorem ofJson_eq_ok_iff {v : Json} {w : Wave} : ofJson v = .ok w ↔ v.DenotesWave w :=
  ⟨denotes_of_ofJson, ofJson_of_denotes⟩

end Wave

/-! ## All decoders -/

/-- Mutations, lists of mutations, mutations by file and waves are read from exactly the values
of the grammar, and as what these stand for.  What a mutation of a type that is not built in keeps
are the fields of its object without the range and the type. -/
theorem decoders_eq_ok_iff :
    (∀ v m, Mutation.ofJson v = .ok m ↔ v.DenotesMutation m) ∧
      (∀ v ms, Mutation.listOfJson v = .ok ms ↔ v.DenotesMutations ms) ∧
      (∀ v files, FileMutations.ofJson v = .ok files ↔ v.DenotesFiles files) ∧
      (∀ v w, Wave.ofJson v = .ok w ↔ v.DenotesWave w) ∧
      ∀ d : Dict Json, (otherFields d.entries).entries
        = d.entries.filter (fun e => !Mutation.isHeadKey e.1) := by
  refine ⟨?_, ?_, ?_, ?_, Json.entries_otherFields⟩
  · intro v m
    exact Mutation.ofJson_eq_ok_iff
  · intro v ms
    exact Mutation.listOfJson_eq_ok_iff_denotes
  · intro v files
    exact FileMutations.ofJson_eq_ok_iff
  · intro v w
    exact Wave.ofJson_eq_ok_iff

end EditWaves
