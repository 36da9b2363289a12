import EditWaves.Mutation.Decode
import EditWaves.Proofs.Dict.Lookup
import EditWaves.Proofs.Result

/-!
# The grammar of mutations

Which JSON values stand for ranges, mutations, lists of mutations, mutations by file and
waves, and for which ones.  The grammar is stated as relations between values and what they
stand for, with the fields of an object found by their keys.  Ranges and heads are read from
exactly the values of the grammar; for what is built from them this takes the recursion of the
decoders and is shown elsewhere.

* `DenotesRange`, `DenotesMutation`, `DenotesFiles`, `DenotesWave`: the grammar.
* `EditRange.ofJson_eq_ok_iff` and `Head.ofJson_eq_ok_iff`: ranges, and what all kinds have in
  common.
* `Head.toMutation_eq_ok_iff`: what a tag asks for beyond that.
-/

namespace EditWaves

/-! ## Values that stand for something -/

namespace Json

/-- What is said about the end of a range that begins at `start`: nothing, `null`, or an
offset that does not precede the begin. -/
inductive EndsRange (start : Nat) : Option Json → Option Nat → Prop where
  | absent : EndsRange start none none
  | null : EndsRange start (some .null) none
  | offset {stop : Nat} (hle : start ≤ stop) (hlt : stop < offsetLimit) :
      EndsRange start (some (.nat stop)) (some stop)

/-- A value stands for a range: an object with the fields `begin` and `end`, or an array of the
two or of the first. -/
inductive DenotesRange : Json → EditRange → Prop where
  | object {fields : List (String × Json)} {start : Nat} {stop : Option Nat}
      (hbegin : Dict.find? "begin" fields = some (.nat start)) (hlt : start < offsetLimit)
      (hend : EndsRange start (Dict.find? "end" fields) stop) :
      DenotesRange (.object fields) ⟨start, stop⟩
  | array {start : Nat} {items : List Json} {stop : Option Nat} (hlength : items.length ≤ 1)
      (hlt : start < offsetLimit) (hend : EndsRange start items.head? stop) :
      DenotesRange (.array (.nat start :: items)) ⟨start, stop⟩

/-- The fields of an object have a range and a type. -/
structure HasHead (fields : List (String × Json)) (range : EditRange) (tag : String) : Prop where
  range : ∃ v, Dict.find? "range" fields = some v ∧ v.DenotesRange range
  type : Dict.find? "type" fields = some (.string tag)

/-- The fields of an object without its range and its type. -/
def otherFields (fields : List (String × Json)) : Dict Json :=
  Dict.ofList (fields.filter (fun e => !Mutation.isHeadKey e.1))

mutual

/-- A value stands for a mutation: an object with a range, a type and what the type asks for. A
type that is not built in asks for nothing and keeps all other fields. -/
inductive DenotesMutation : Json → Mutation → Prop where
  | delete {fields : List (String × Json)} {range : EditRange}
      (hhead : HasHead fields range Tag.delete) :
      DenotesMutation (.object fields) (.delete range)
  | insert {fields : List (String × Json)} {range : EditRange} {insertion : String}
      (hhead : HasHead fields range Tag.insert)
      (hinsertion : (otherFields fields).get? "insertion" = some (.string insertion)) :
      DenotesMutation (.object fields) (.insert range insertion)
  | replace {fields : List (String × Json)} {range : EditRange} {search template : String}
      (hhead : HasHead fields range Tag.replace)
      (hsearch : (otherFields fields).get? "search" = some (.string search))
      (hreplace : (otherFields fields).get? "replace" = some (.string template)) :
      DenotesMutation (.object fields) (.replace range search template)
  | swap {fields : List (String × Json)} {range : EditRange} {insertion : String}
      (hhead : HasHead fields range Tag.swap)
      (hinsertion : (otherFields fields).get? "insertion" = some (.string insertion)) :
      DenotesMutation (.object fields) (.swap range insertion)
  | multiple {fields : List (String × Json)} {range : EditRange} {items : List Json}
      {children : List Mutation} (hhead : HasHead fields range Tag.multiple)
      (hmutations : (otherFields fields).get? "mutations" = some (.array items))
      (hitems : DenotesItems items children) :
      DenotesMutation (.object fields) (.multiple range children)
  | custom {fields : List (String × Json)} {range : EditRange} {tag : String}
      (hhead : HasHead fields range tag) (htag : tag ∉ Tag.builtin) :
      DenotesMutation (.object fields) (.custom range tag (otherFields fields))

/-- Values stand for mutations one by one. -/
inductive DenotesItems : List Json → List Mutation → Prop where
  | nil : DenotesItems [] []
  | cons {item : Json} {m : Mutation} {items : List Json} {ms : List Mutation}
      (hitem : DenotesMutation item m) (hitems : DenotesItems items ms) :
      DenotesItems (item :: items) (m :: ms)

end

/-- A value stands for a list of mutations: an array of values that stand for them. -/
inductive DenotesMutations : Json → List Mutation → Prop where
  | array {items : List Json} {ms : List Mutation} (hitems : DenotesItems items ms) :
      DenotesMutations (.array items) ms

/-- A value stands for mutations by file: an object of values that stand for lists. -/
inductive DenotesFiles : Json → FileMutations → Prop where
  | object {fields : List (String × Json)} {entries : List (String × List Mutation)}
      (hentries : List.Forall₂ (fun field entry => field.1 = entry.1 ∧
        field.2.DenotesMutations entry.2) fields entries) :
      DenotesFiles (.object fields) (Dict.ofList entries)

/-- What is said about the files of a wave: nothing, `null`, or mutations by file. -/
inductive FillsWave : Option Json → Option FileMutations → Prop where
  | absent : FillsWave none none
  | null : FillsWave (some .null) none
  | files {v : Json} {files : FileMutations} (hfiles : v.DenotesFiles files) :
      FillsWave (some v) (some files)

/-- A value stands for a wave: an object with the field `fileMutations`, or an array of it. -/
inductive DenotesWave : Json → Wave → Prop where
  | object {fields : List (String × Json)} {files : Option FileMutations}
      (hfiles : FillsWave (Dict.find? "fileMutations" fields) files) :
      DenotesWave (.object fields) ⟨files⟩
  | array {items : List Json} {files : Option FileMutations} (hlength : items.length ≤ 1)
      (hfiles : FillsWave items.head? files) : DenotesWave (.array items) ⟨files⟩

theorem get?_otherFields (fields : List (String × Json)) (key : String) :
    (otherFields fields).get? key
      = if Mutation.isHeadKey key then none else Dict.find? key fields.reverse := by
  rw [otherFields, Dict.get?_ofList, ← List.filter_reverse,
    Dict.find?_filter (fun k => !Mutation.isHeadKey k)]
  cases Mutation.isHeadKey key <;> rfl

/-- The fields of an object with ascending keys only lose the range and the type. -/
theorem entries_otherFields (d : Dict Json) :
    (otherFields d.entries).entries = d.entries.filter (fun e => !Mutation.isHeadKey e.1) :=
  Dict.entries_ofList (d.ascending.sublist List.filter_sublist)

end Json

/-! ## Ranges -/

theorem offsetOfInt_eq_ok_iff {i : Int} {n : Nat} :
    offsetOfInt i = .ok n ↔ i = n ∧ n < offsetLimit := by
  rw [offsetOfInt]
  split
  next hneg =>
    constructor
    · rintro ⟨⟩
    · rintro ⟨rfl, -⟩
      omega
  next hpos =>
    split
    next hlt =>
      constructor
      · rintro ⟨⟩
        exact ⟨by omega, hlt⟩
      · rintro ⟨rfl, -⟩
        rw [Int.toNat_natCast]
    next hge =>
      constructor
      · rintro ⟨⟩
      · rintro ⟨rfl, hlt⟩
        rw [Int.toNat_natCast] at hge
        exact absurd hlt hge

theorem offsetOfJson_eq_ok_iff {v : Json} {n : Nat} :
    offsetOfJson v = .ok n ↔ v = .nat n ∧ n < offsetLimit := by
  cases v with
  | number k =>
    cases k with
    | int i =>
      rw [offsetOfJson, offsetOfInt_eq_ok_iff, Json.nat, Json.number.injEq, Json.Number.int.injEq]
    | float x => simp [offsetOfJson, Json.nat]
  | _ => simp [offsetOfJson, Json.nat]

theorem offsetOrNull_eq_ok_iff {v : Json} {stop : Option Nat} :
    offsetOrNull v = .ok stop ↔
      (v = .null ∧ stop = none) ∨ ∃ n, v = .nat n ∧ n < offsetLimit ∧ stop = some n := by
  by_cases hnull : v = .null
  · subst hnull
    simp [offsetOrNull, Json.nat, eq_comm]
  · rw [offsetOrNull]
    · constructor
      · intro h
        obtain ⟨n, hn, rfl⟩ := Result.map_eq_ok h
        obtain ⟨hv, hlt⟩ := offsetOfJson_eq_ok_iff.1 hn
        exact .inr ⟨n, hv, hlt, rfl⟩
      · rintro (⟨hv, -⟩ | ⟨n, hv, hlt, rfl⟩)
        · exact absurd hv hnull
        · rw [offsetOfJson_eq_ok_iff.2 ⟨hv, hlt⟩]
          rfl
    · exact hnull

namespace EditRange

theorem checked_eq_ok_iff {start : Nat} {stop : Option Nat} {r : EditRange} :
    checked start stop = .ok r ↔ r = ⟨start, stop⟩ ∧ ∀ n, stop = some n → start ≤ n := by
  rw [checked]
  cases stop with
  | none => simp [isForward, eq_comm]
  | some n => by_cases hle : start ≤ n <;> simp [isForward, hle, eq_comm]

/-- What is said about the end of a range is read as it says. -/
theorem endsRange_iff {start : Nat} {said : Option Json} {stop : Option Nat} :
    Json.EndsRange start said stop ↔ ∃ read, said.mapM offsetOrNull = .ok read ∧
      stop = read.getD none ∧ ∀ n, stop = some n → start ≤ n := by
  constructor
  · intro h
    cases h with
    | absent => exact ⟨none, rfl, rfl, nofun⟩
    | null => exact ⟨some none, rfl, rfl, nofun⟩
    | @offset n hle hlt =>
      refine ⟨some (some n), ?_, rfl, ?_⟩
      · rw [Option.mapM_some, offsetOrNull_eq_ok_iff.2 (.inr ⟨n, rfl, hlt, rfl⟩)]
        rfl
      · rintro k ⟨⟩
        exact hle
  · rintro ⟨read, hread, rfl, hle⟩
    obtain ⟨rfl, rfl⟩ | ⟨v, stop, rfl, hv, rfl⟩ := Result.mapM_eq_ok hread
    · exact .absent
    · obtain ⟨rfl, rfl⟩ | ⟨n, rfl, hlt, rfl⟩ := offsetOrNull_eq_ok_iff.1 hv
      · exact .null
      · exact .offset (hle n rfl) hlt

theorem denotesRange_of_ofJson {v : Json} {r : EditRange} (h : ofJson v = .ok r) :
    v.DenotesRange r := by
  unfold ofJson at h
  split at h
  next fields =>
    obtain ⟨start, hstart, h⟩ := Result.bind_eq_ok h
    obtain ⟨stop, hstop, h⟩ := Result.bind_eq_ok h
    obtain ⟨-, rfl⟩ | ⟨w, n, hbegin, hn, rfl⟩ := Result.mapM_eq_ok hstart
    · cases h
    · obtain ⟨rfl, hlt⟩ := offsetOfJson_eq_ok_iff.1 hn
      obtain ⟨rfl, hle⟩ := checked_eq_ok_iff.1 h
      exact .object hbegin hlt (endsRange_iff.2 ⟨stop, hstop, rfl, hle⟩)
  next => cases h
  next first =>
    obtain ⟨start, hstart, hchecked⟩ := Result.bind_eq_ok h
    obtain ⟨rfl, hlt⟩ := offsetOfJson_eq_ok_iff.1 hstart
    obtain ⟨rfl, -⟩ := checked_eq_ok_iff.1 hchecked
    exact .array (Nat.zero_le 1) hlt .absent
  next first second rest =>
    obtain ⟨start, hstart, hrest⟩ := Result.bind_eq_ok h
    obtain ⟨stop, hstop, hchecked⟩ := Result.bind_eq_ok hrest
    obtain ⟨rfl, hlt⟩ := offsetOfJson_eq_ok_iff.1 hstart
    split at hchecked
    next hempty =>
      obtain ⟨rfl, hle⟩ := checked_eq_ok_iff.1 hchecked
      have hread : (some second).mapM offsetOrNull = .ok (some stop) := by
        rw [Option.mapM_some, hstop]
        rfl
      rw [List.isEmpty_iff.1 hempty]
      exact .array (Nat.le_refl 1) hlt (endsRange_iff.2 ⟨some stop, hread, rfl, hle⟩)
    next => cases hchecked
  next => cases h

theorem ofJson_of_denotesRange {v : Json} {r : EditRange} (h : v.DenotesRange r) :
    ofJson v = .ok r := by
  cases h with
  | @object fields start stop hbegin hlt hend =>
    obtain ⟨read, hread, rfl, hle⟩ := endsRange_iff.1 hend
    rw [ofJson, hbegin, hread, Option.mapM_some, offsetOfJson_eq_ok_iff.2 ⟨rfl, hlt⟩]
    exact checked_eq_ok_iff.2 ⟨rfl, hle⟩
  | @array start items stop hlength hlt hend =>
    have hstart := offsetOfJson_eq_ok_iff.2 ⟨rfl, hlt⟩
    cases items with
    | nil =>
      cases hend
      have hchecked : checked start none = .ok ⟨start, none⟩ := checked_eq_ok_iff.2 ⟨rfl, nofun⟩
      rw [ofJson, hstart]
      exact hchecked
    | cons second rest =>
      obtain rfl : rest = [] :=
        List.length_eq_zero_iff.1 (Nat.le_zero.1 (Nat.le_of_succ_le_succ hlength))
      obtain ⟨read, hread, rfl, hle⟩ := endsRange_iff.1 hend
      obtain ⟨hnone, -⟩ | ⟨w, stop, hw, hstop, rfl⟩ := Result.mapM_eq_ok hread
      · cases hnone
      · cases hw
        rw [ofJson, hstart, hstop]
        exact checked_eq_ok_iff.2 ⟨rfl, hle⟩

/-- A range is read from exactly the values that stand for it. -/
theorem ofJson_eq_ok_iff {v : Json} {r : EditRange} : ofJson v = .ok r ↔ v.DenotesRange r :=
  ⟨denotesRange_of_ofJson, ofJson_of_denotesRange⟩

end EditRange

/-! ## Heads -/

namespace Mutation

open Json (HasHead otherFields DenotesItems)

namespace Head

theorem stringOfJson_eq_ok_iff {v : Json} {text : String} :
    stringOfJson v = .ok text ↔ v = .string text := by
  cases v <;> simp [stringOfJson]

/-- A head is read from an object with a range and a type, and its fields are the others. -/
theorem ofJson_eq_ok_iff {v : Json} {head : Head} :
    ofJson v = .ok head ↔ ∃ fields, v = .object fields ∧ HasHead fields head.range head.tag ∧
      head.fields = otherFields fields := by
  constructor
  · intro h
    unfold ofJson at h
    split at h
    next fields =>
      obtain ⟨range, hrange, h⟩ := Result.bind_eq_ok h
      obtain ⟨tag, htag, h⟩ := Result.bind_eq_ok h
      obtain ⟨-, rfl⟩ | ⟨w, r, hw, hr, rfl⟩ := Result.mapM_eq_ok hrange
      · cases h
      · obtain ⟨-, rfl⟩ | ⟨u, t, hu, ht, rfl⟩ := Result.mapM_eq_ok htag
        · cases h
        · cases h
          rw [stringOfJson_eq_ok_iff.1 ht] at hu
          exact ⟨fields, rfl, ⟨⟨w, hw, EditRange.ofJson_eq_ok_iff.1 hr⟩, hu⟩, rfl⟩
    next => cases h
  · rintro ⟨fields, rfl, ⟨⟨w, hw, hr⟩, htype⟩, hfields⟩
    rw [ofJson, hw, htype, Option.mapM_some, Option.mapM_some, EditRange.ofJson_eq_ok_iff.2 hr]
    rcases head with ⟨range, tag, others⟩
    rw [show others = otherFields fields from hfields]
    rfl

theorem stringField_eq_ok_iff {head : Head} {field text : String} :
    head.stringField field = .ok text ↔ head.fields.get? field = some (.string text) := by
  rw [stringField]
  split
  next s hs => rw [hs, Except.ok.injEq, Option.some.injEq, Json.string.injEq]
  next other hother hget =>
    rw [hget]
    constructor
    · rintro ⟨⟩
    · rintro ⟨⟩
      exact absurd rfl (hother text)
  next hnone => rw [hnone]; simp

/-- What becomes of a head: the kind is that of the tag, with the fields that the kind asks for,
and a tag that is not built in keeps all fields. -/
inductive Makes (head : Head) (children : Except DecodeError (List Mutation)) :
    Mutation → Prop where
  | delete (htag : head.tag = Tag.delete) : Makes head children (.delete head.range)
  | insert {insertion : String} (htag : head.tag = Tag.insert)
      (hinsertion : head.fields.get? "insertion" = some (.string insertion)) :
      Makes head children (.insert head.range insertion)
  | replace {search template : String} (htag : head.tag = Tag.replace)
      (hsearch : head.fields.get? "search" = some (.string search))
      (hreplace : head.fields.get? "replace" = some (.string template)) :
      Makes head children (.replace head.range search template)
  | swap {insertion : String} (htag : head.tag = Tag.swap)
      (hinsertion : head.fields.get? "insertion" = some (.string insertion)) :
      Makes head children (.swap head.range insertion)
  | multiple {ms : List Mutation} (htag : head.tag = Tag.multiple) (hchildren : children = .ok ms) :
      Makes head children (.multiple head.range ms)
  | custom (htag : head.tag ∉ Tag.builtin) :
      Makes head children (.custom head.range head.tag head.fields)

theorem makes_of_toMutation {head : Head} {children : Except DecodeError (List Mutation)}
    {m : Mutation} (h : head.toMutation children = .ok m) : head.Makes children m := by
  unfold toMutation at h
  split at h
  next htag =>
    cases h
    exact .delete htag
  next hdelete =>
    split at h
    next htag =>
      obtain ⟨insertion, hinsertion, h⟩ := Result.bind_eq_ok h
      cases h
      exact .insert htag (stringField_eq_ok_iff.1 hinsertion)
    next hinsert =>
      split at h
      next htag =>
        obtain ⟨search, hsearch, h⟩ := Result.bind_eq_ok h
        obtain ⟨template, htemplate, h⟩ := Result.bind_eq_ok h
        cases h
        exact .replace htag (stringField_eq_ok_iff.1 hsearch) (stringField_eq_ok_iff.1 htemplate)
      next hreplace =>
        split at h
        next htag =>
          obtain ⟨insertion, hinsertion, h⟩ := Result.bind_eq_ok h
          cases h
          exact .swap htag (stringField_eq_ok_iff.1 hinsertion)
        next hswap =>
          split at h
          next htag =>
            obtain ⟨ms, hms, h⟩ := Result.bind_eq_ok h
            cases h
            exact .multiple htag hms
          next hmultiple =>
            cases h
            refine .custom ?_
            simp only [Tag.builtin, List.mem_cons, List.not_mem_nil, or_false, not_or]
            exact ⟨hdelete, hinsert, hreplace, hswap, hmultiple⟩

theorem toMutation_of_makes {head : Head} {children : Except DecodeError (List Mutation)}
    {m : Mutation} (h : head.Makes children m) : head.toMutation children = .ok m := by
  rcases head with ⟨range, tag, fields⟩
  cases h with
  | delete htag =>
    cases htag
    rfl
  | insert htag hinsertion =>
    cases htag
    show (stringField _ "insertion" >>= fun text => _) = _
    rw [stringField_eq_ok_iff.2 hinsertion]
    rfl
  | replace htag hsearch hreplace =>
    cases htag
    show (stringField _ "search" >>= fun search =>
      stringField _ "replace" >>= fun template => _) = _
    rw [stringField_eq_ok_iff.2 hsearch, stringField_eq_ok_iff.2 hreplace]
    rfl
  | swap htag hinsertion =>
    cases htag
    show (stringField _ "insertion" >>= fun text => _) = _
    rw [stringField_eq_ok_iff.2 hinsertion]
    rfl
  | multiple htag hchildren =>
    cases htag
    rw [hchildren]
    rfl
  | custom htag =>
    simp only [Tag.builtin, List.mem_cons, List.not_mem_nil, or_false, not_or] at htag
    obtain ⟨hdelete, hinsert, hreplace, hswap, hmultiple⟩ := htag
    rw [toMutation, if_neg hdelete, if_neg hinsert, if_neg hreplace, if_neg hswap,
      if_neg hmultiple]

/-- A head is made into exactly one mutation, if its fields allow it. -/
theorem toMutation_eq_ok_iff {head : Head} {children : Except DecodeError (List Mutation)}
    {m : Mutation} : head.toMutation children = .ok m ↔ head.Makes children m :=
  ⟨makes_of_toMutation, toMutation_of_makes⟩

end Head

end Mutation

end EditWaves
