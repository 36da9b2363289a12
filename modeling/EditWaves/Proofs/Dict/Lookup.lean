import Mathlib.Data.List.Nodup
import EditWaves.Dict

/-!
# Lookups determine a dictionary

What each operation on a `Dict` does to its lookups, and the two facts that turn
lookups back into entries.

* `get?_insert`, `get?_ofList`: the lookups of a changed dictionary.
  Reading a list of entries looks at the list from its end, since the later of two
  entries with one key wins.
* `mem_entries_iff`, `mem_keys_iff`: the entries are the successful lookups.
* `ext_get?`: dictionaries with the same lookups are the same.
-/

namespace EditWaves.Dict

universe u

variable {α : Type u}

/-! ## Lookups in a list of entries -/

theorem find?_append (key : String) (l₁ l₂ : List (String × α)) :
    find? key (l₁ ++ l₂) = (find? key l₁ <|> find? key l₂) := by
  induction l₁ with
  | nil => rfl
  | cons e rest ih =>
    by_cases he : e.1 = key
    · simp [find?, he]
    · simp [find?, he, ih]

theorem find?_insertEntry (key k : String) (value : α) (l : List (String × α)) :
    find? k (insertEntry key value l) = if key = k then some value else find? k l := by
  induction l with
  | nil => rfl
  | cons e rest ih =>
    obtain ⟨k', v⟩ := e
    rw [insertEntry]
    split
    · rfl
    · split
      · rename_i hlt
        have hne : k' ≠ key := fun h => String.lt_irrefl _ (h ▸ hlt)
        rw [find?, find?, ih]
        by_cases hk : key = k
        · have hk' : k' ≠ k := hk ▸ hne
          simp [hk, hk']
        · simp [hk]
      · rename_i hge hle
        have hkey : key = k' := key_eq_of_not_lt hge hle
        rw [find?, find?, hkey]
        by_cases hk : k' = k <;> simp [hk]

theorem find?_eq_none_iff {key : String} {l : List (String × α)} :
    find? key l = none ↔ ∀ e ∈ l, e.1 ≠ key := by
  induction l with
  | nil => simp [find?]
  | cons e rest ih =>
    by_cases he : e.1 = key
    · simp [find?, he]
    · simp [find?, he, ih]

/-- Leaving out keys leaves the lookups of the other keys as they are. -/
theorem find?_filter (p : String → Bool) (key : String) (l : List (String × α)) :
    find? key (l.filter (fun e => p e.1)) = if p key then find? key l else none := by
  induction l with
  | nil => simp [find?]
  | cons e rest ih =>
    by_cases hp : p e.1 = true
    · rw [List.filter_cons, if_pos hp, find?, find?, ih]
      by_cases he : e.1 = key
      · simp [he, he ▸ hp]
      · simp [he]
    · rw [List.filter_cons, if_neg hp, ih, find?]
      by_cases he : e.1 = key
      · simp [he ▸ hp]
      · simp [he]

/-! ## Lookups of dictionaries -/

@[simp] theorem get?_empty (key : String) : (empty : Dict α).get? key = none := rfl

theorem get?_insert (d : Dict α) (key k : String) (value : α) :
    (d.insert key value).get? k = if key = k then some value else d.get? k :=
  find?_insertEntry key k value d.entries

/-- Putting a changed value in the place of an old one changes what is found there. -/
theorem get?_insert_changed {d : Dict α} {key : String} {value : α}
    (h : d.get? key = some value) (change : α → α) (k : String) :
    (d.insert key (change value)).get? k
      = if key = k then (d.get? k).map change else d.get? k := by
  rw [get?_insert]
  split
  next heq => rw [← heq, h]; rfl
  next => rfl

theorem get?_of_none {d : Dict α} {key : String} (h : d.get? key = none) (change : α → α)
    (k : String) : d.get? k = if key = k then (d.get? k).map change else d.get? k := by
  split
  next heq => rw [← heq, h]; rfl
  next => rfl

theorem get?_foldl_insert (l : List (String × α)) (d : Dict α) (key : String) :
    (l.foldl (fun d e => d.insert e.1 e.2) d).get? key
      = (find? key l.reverse <|> d.get? key) := by
  induction l generalizing d with
  | nil => rfl
  | cons e rest ih =>
    rw [List.foldl_cons, ih, List.reverse_cons, find?_append, get?_insert]
    cases find? key rest.reverse with
    | some v => rfl
    | none =>
      by_cases he : e.1 = key
      · simp [find?, he]
      · simp [find?, he]

/-- Reading a list of entries finds the last entry of a key. -/
theorem get?_ofList (l : List (String × α)) (key : String) :
    (ofList l).get? key = find? key l.reverse := by
  rw [ofList, get?_foldl_insert, get?_empty]
  cases find? key l.reverse <;> rfl

/-! ## From lookups to entries -/

/-- The keys of a dictionary ascend. -/
theorem pairwise_keys (d : Dict α) : d.keys.Pairwise (· < ·) := by
  rw [keys, List.pairwise_map]
  exact d.ascending

/-- The keys of a dictionary are distinct. -/
theorem nodup_keys (d : Dict α) : d.keys.Nodup := by
  refine d.pairwise_keys.imp ?_
  intro a b hlt heq
  exact String.lt_irrefl _ (heq ▸ hlt)

theorem nodup_entries (d : Dict α) : d.entries.Nodup :=
  List.Nodup.of_map _ d.nodup_keys

theorem find?_eq_some_of_mem {l : List (String × α)} (hl : (l.map Prod.fst).Nodup)
    {key : String} {v : α} (h : (key, v) ∈ l) : find? key l = some v := by
  induction l with
  | nil => simp at h
  | cons e rest ih =>
    rw [List.map_cons, List.nodup_cons] at hl
    rcases List.mem_cons.1 h with rfl | hrest
    · simp [find?]
    · have hne : e.1 ≠ key := fun he =>
        hl.1 (he ▸ List.mem_map_of_mem (f := Prod.fst) hrest)
      rw [find?, if_neg hne]
      exact ih hl.2 hrest

/-- The entries of a dictionary are its successful lookups. -/
theorem mem_entries_iff {d : Dict α} {key : String} {v : α} :
    (key, v) ∈ d.entries ↔ d.get? key = some v :=
  ⟨find?_eq_some_of_mem d.nodup_keys, mem_of_find?_eq_some⟩

/-- The keys of a dictionary are those under which it has a value. -/
theorem mem_keys_iff {d : Dict α} {key : String} : key ∈ d.keys ↔ ∃ v, d.get? key = some v := by
  constructor
  · intro h
    obtain ⟨⟨k, v⟩, he, rfl⟩ := List.mem_map.1 h
    exact ⟨v, mem_entries_iff.1 he⟩
  · rintro ⟨v, hv⟩
    exact List.mem_map.2 ⟨(key, v), mem_entries_iff.2 hv, rfl⟩

theorem mem_keys_insert {d : Dict α} {key k : String} {value : α} :
    k ∈ (d.insert key value).keys ↔ k = key ∨ k ∈ d.keys := by
  rw [mem_keys_iff, mem_keys_iff, get?_insert]
  by_cases hk : key = k
  · simp [hk]
  · have hne : k ≠ key := fun h => hk h.symm
    simp [hk, hne]

/-- Among entries with distinct keys their order does not matter. -/
theorem find?_reverse {l : List (String × α)} (hl : (l.map Prod.fst).Nodup) (key : String) :
    find? key l.reverse = find? key l := by
  have hr : (l.reverse.map Prod.fst).Nodup := by
    rw [List.map_reverse]
    exact List.nodup_reverse.2 hl
  cases h : find? key l with
  | none =>
    rw [find?_eq_none_iff] at h ⊢
    intro e he
    exact h e (List.mem_reverse.1 he)
  | some v =>
    exact find?_eq_some_of_mem hr (List.mem_reverse.2 (mem_of_find?_eq_some h))

/-- Dictionaries with the same lookups are the same. -/
theorem ext_get? {d e : Dict α} (h : ∀ key, d.get? key = e.get? key) : d = e := by
  apply ext
  have hmem : ∀ x, x ∈ d.entries ↔ x ∈ e.entries := by
    intro x
    obtain ⟨key, v⟩ := x
    rw [mem_entries_iff, mem_entries_iff, h key]
  have hperm : d.entries.Perm e.entries :=
    (List.perm_ext_iff_of_nodup d.nodup_entries e.nodup_entries).2 hmem
  refine hperm.eq_of_pairwise ?_ d.ascending e.ascending
  intro a b _ _ hab hba
  exact absurd (String.lt_trans hab hba) (String.lt_irrefl _)

end EditWaves.Dict
