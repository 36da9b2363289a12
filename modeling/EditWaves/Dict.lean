/-!
# Dictionaries in key order

A `Dict` maps texts to values and lists its entries in ascending key order, each
key once.  The order is part of the type, so two dictionaries with the same
lookups are the same dictionary, and every listing of a dictionary (files of a
wave, fields of an object, counters of a run) is sorted without a sorting step.

* `Dict.insert` puts a value under a key, replacing an older one.
* `Dict.ofList` reads a list of entries; of two entries with one key the later
  wins.
* `Dict.ofList_entries` says that reading the entries of a dictionary gives the
  dictionary back.
-/

namespace EditWaves

universe u v

/-- A map from texts to values whose entries ascend strictly by key. -/
structure Dict (α : Type u) where
  /-- The entries in ascending key order. -/
  entries : List (String × α)
  ascending : entries.Pairwise (fun a b => a.1 < b.1)

namespace Dict

variable {α : Type u} {β : Type v}

/-- Two keys neither of which precedes the other are the same key. -/
theorem key_eq_of_not_lt {a b : String} (hab : ¬ a < b) (hba : ¬ b < a) : a = b :=
  String.le_antisymm (String.not_lt.1 hba) (String.not_lt.1 hab)

@[ext] theorem ext {d e : Dict α} (h : d.entries = e.entries) : d = e := by
  cases d; cases e; cases h; rfl

/-- The dictionary without entries. -/
def empty : Dict α := ⟨[], .nil⟩

instance : Inhabited (Dict α) := ⟨empty⟩

@[simp] theorem entries_empty : (empty : Dict α).entries = [] := rfl

/-! ## Lookup -/

/-- The value of the first entry under `key`. -/
def find? (key : String) : List (String × α) → Option α
  | [] => none
  | (k, v) :: rest => if k = key then some v else find? key rest

/-- The value under `key`, if there is one. -/
def get? (d : Dict α) (key : String) : Option α := find? key d.entries

/-- Whether `key` has a value. -/
def contains (d : Dict α) (key : String) : Bool := (d.get? key).isSome

/-- The keys, ascending. -/
def keys (d : Dict α) : List String := d.entries.map Prod.fst

/-- The values in the order of their keys. -/
def values (d : Dict α) : List α := d.entries.map Prod.snd

/-- The number of entries. -/
def size (d : Dict α) : Nat := d.entries.length

theorem mem_of_find?_eq_some {key : String} {v : α} :
    {l : List (String × α)} → find? key l = some v → (key, v) ∈ l
  | [], h => by simp [find?] at h
  | (k, w) :: rest, h => by
    by_cases hk : k = key
    · simp [find?, hk] at h
      simp [hk, h]
    · simp [find?, hk] at h
      exact List.mem_cons_of_mem _ (mem_of_find?_eq_some h)

/-! ## Insertion -/

/-- Puts an entry into an ascending list of entries. -/
def insertEntry (key : String) (value : α) : List (String × α) → List (String × α)
  | [] => [(key, value)]
  | (k, v) :: rest =>
    if key < k then (key, value) :: (k, v) :: rest
    else if k < key then (k, v) :: insertEntry key value rest
    else (key, value) :: rest

theorem mem_insertEntry {key : String} {value : α} {e : String × α} :
    {l : List (String × α)} → e ∈ insertEntry key value l → e = (key, value) ∨ e ∈ l
  | [], h => by simp [insertEntry] at h; exact .inl h
  | (k, v) :: rest, h => by
    unfold insertEntry at h
    split at h
    · simpa using h
    · split at h
      · rcases List.mem_cons.1 h with h | h
        · exact .inr (by simp [h])
        · rcases mem_insertEntry h with h | h
          · exact .inl h
          · exact .inr (List.mem_cons_of_mem _ h)
      · rcases List.mem_cons.1 h with h | h
        · exact .inl h
        · exact .inr (List.mem_cons_of_mem _ h)

theorem pairwise_insertEntry (key : String) (value : α) :
    {l : List (String × α)} → l.Pairwise (fun a b => a.1 < b.1) →
      (insertEntry key value l).Pairwise (fun a b => a.1 < b.1)
  | [], _ => by simp [insertEntry]
  | (k, v) :: rest, h => by
    obtain ⟨hhead, htail⟩ := List.pairwise_cons.1 h
    unfold insertEntry
    split
    · rename_i hlt
      refine List.pairwise_cons.2 ⟨fun e he => ?_, h⟩
      rcases List.mem_cons.1 he with rfl | he
      · exact hlt
      · exact String.lt_trans hlt (hhead e he)
    · split
      · rename_i hlt
        refine List.pairwise_cons.2 ⟨fun e he => ?_, pairwise_insertEntry key value htail⟩
        rcases mem_insertEntry he with rfl | he
        · exact hlt
        · exact hhead e he
      · rename_i hge hle
        have hk : key = k := key_eq_of_not_lt hge hle
        subst hk
        exact List.pairwise_cons.2 ⟨hhead, htail⟩

/-- Puts `value` under `key`, replacing an older value. -/
def insert (d : Dict α) (key : String) (value : α) : Dict α :=
  ⟨insertEntry key value d.entries, pairwise_insertEntry key value d.ascending⟩

/-- The dictionary of a list of entries; of two with one key the later wins. -/
def ofList (l : List (String × α)) : Dict α :=
  l.foldl (fun d e => d.insert e.1 e.2) empty

/-- The dictionary without an entry under `key`. -/
def erase (d : Dict α) (key : String) : Dict α :=
  ⟨d.entries.filter (fun e => e.1 ≠ key), d.ascending.filter _⟩

/-- Applies `f` to every value. -/
def map (f : α → β) (d : Dict α) : Dict β :=
  ⟨d.entries.map (fun e => (e.1, f e.2)), by
    rw [List.pairwise_map]
    exact d.ascending⟩

/-- Applies `f` to the value under `key`, starting from `initial` when it has none. -/
def alter (d : Dict α) (key : String) (initial : α) (f : α → α) : Dict α :=
  d.insert key (f ((d.get? key).getD initial))

/-! ## Reading entries back -/

theorem insertEntry_eq_append {key : String} {value : α} :
    {l : List (String × α)} → (∀ e ∈ l, e.1 < key) → insertEntry key value l = l ++ [(key, value)]
  | [], _ => rfl
  | (k, v) :: rest, h => by
    have hk : k < key := h (k, v) (by simp)
    have hnot : ¬ key < k := fun hlt => String.lt_irrefl _ (String.lt_trans hk hlt)
    have ih : insertEntry key value rest = rest ++ [(key, value)] :=
      insertEntry_eq_append (fun e he => h e (List.mem_cons_of_mem _ he))
    simp [insertEntry, hnot, hk, ih]

theorem entries_foldl_insert (l : List (String × α)) (d : Dict α)
    (h : (d.entries ++ l).Pairwise (fun a b => a.1 < b.1)) :
    (l.foldl (fun d e => d.insert e.1 e.2) d).entries = d.entries ++ l := by
  induction l generalizing d with
  | nil => simp
  | cons e rest ih =>
    have hlast : ∀ x ∈ d.entries, x.1 < e.1 := fun x hx =>
      (List.pairwise_append.1 h).2.2 x hx e (by simp)
    have happ : (d.insert e.1 e.2).entries = d.entries ++ [e] := insertEntry_eq_append hlast
    rw [List.foldl_cons, ih (d.insert e.1 e.2) (by rw [happ]; simpa using h), happ]
    simp

/-- Reading an ascending list of entries keeps it as it is. -/
theorem entries_ofList {l : List (String × α)} (h : l.Pairwise (fun a b => a.1 < b.1)) :
    (ofList l).entries = l := by
  simpa [ofList] using entries_foldl_insert l (empty : Dict α) (by simpa using h)

/-- A dictionary is the dictionary of its entries. -/
@[simp] theorem ofList_entries (d : Dict α) : ofList d.entries = d :=
  ext (entries_ofList d.ascending)

/-- A key that reading a list of entries finds has its value in the list. -/
theorem mem_of_mem_ofList {l : List (String × α)} {e : String × α}
    (h : e ∈ (ofList l).entries) : e ∈ l := by
  have step : ∀ (l : List (String × α)) (d : Dict α),
      e ∈ (l.foldl (fun d x => d.insert x.1 x.2) d).entries → e ∈ d.entries ∨ e ∈ l := by
    intro l
    induction l with
    | nil => intro d h; exact .inl h
    | cons x rest ih =>
      intro d h
      rcases ih _ h with h | h
      · rcases mem_insertEntry h with h | h
        · exact .inr (by simp [h])
        · exact .inl h
      · exact .inr (List.mem_cons_of_mem _ h)
  simpa using step l empty h

end Dict

end EditWaves
