import EditWaves.Mutation.Document
import EditWaves.Proofs.Mutation.WellFormed

/-!
# Well-formedness of what texts hold

A mutation that is read from a JSON text is as well-formed as one that is read from a value.
The reader of texts goes through the fields of an object one after another and keeps what it
has met; what it keeps has bounded offsets, well-formed ranges and no keys that are common to
all kinds, and this holds up to the end of the object.

* `EditRange.wellFormed_of_ofDocument`: ranges.
* `Mutation.Head.wellFormed_of_ofDocument`: what all kinds have in common.
* `Mutation.Read`: a mutation that was read in either way, and `Mutation.Read.wellFormed`.
-/

namespace EditWaves

open Json (Document)

/-! ## Offsets -/

namespace Json.Document

/-- What should have been something else is not read. -/
theorem unexpected_ne_ok {α : Type} (d : Document) (expected : String) (a : α) :
    d.unexpected expected ≠ .ok a := by
  intro h
  obtain ⟨shape, -, h⟩ := Result.bind_eq_ok h
  cases h

theorem offset_lt {d : Document} {n : Nat} (h : d.offset = .ok n) : n < offsetLimit := by
  unfold offset at h
  split at h
  next i => exact (offsetOfInt_eq_ok_iff.1 h).2
  next => exact absurd h (unexpected_ne_ok _ _ _)

theorem offsetOrNull_lt {d : Document} {stop : Option Nat} (h : d.offsetOrNull = .ok stop) :
    ∀ n, stop = some n → n < offsetLimit := by
  unfold offsetOrNull at h
  split at h
  next =>
    cases h
    nofun
  next =>
    obtain ⟨k, hk, rfl⟩ := Result.map_eq_ok h
    rintro n ⟨⟩
    exact offset_lt hk

end Json.Document

/-! ## Ranges -/

namespace EditRange

theorem wellFormed_of_checked {start : Nat} {stop : Option Nat} {r : EditRange}
    (hstart : start < offsetLimit) (hstop : ∀ n, stop = some n → n < offsetLimit)
    (h : checked start stop = .ok r) : r.WellFormed := by
  obtain ⟨rfl, hle⟩ := checked_eq_ok_iff.1 h
  exact wellFormed_of_le hstart (fun n hn => ⟨hle n hn, hstop n hn⟩)

/-- The offsets that have been met so far stay below the limit to the end of the fields. -/
theorem lt_of_ofDocumentFields {fields : List (Option String × Document)}
    {start start' : Option Nat} {stop stop' : Option (Option Nat)}
    (hstart : ∀ n, start = some n → n < offsetLimit)
    (hstop : ∀ n, stop.getD none = some n → n < offsetLimit)
    (h : ofDocumentFields start stop fields = .ok (start', stop')) :
    (∀ n, start' = some n → n < offsetLimit) ∧
      ∀ n, stop'.getD none = some n → n < offsetLimit := by
  induction fields generalizing start stop with
  | nil =>
    cases h
    exact ⟨hstart, hstop⟩
  | cons field rest ih =>
    rcases field with ⟨_ | key, d⟩
    · cases h
    · rw [ofDocumentFields] at h
      split at h
      next =>
        obtain ⟨-, -, h⟩ := Result.bind_eq_ok h
        obtain ⟨n, hn, h⟩ := Result.bind_eq_ok h
        refine ih ?_ hstop h
        rintro k ⟨⟩
        exact Document.offset_lt hn
      next =>
        split at h
        next =>
          obtain ⟨-, -, h⟩ := Result.bind_eq_ok h
          obtain ⟨n, hn, h⟩ := Result.bind_eq_ok h
          exact ih hstart (Document.offsetOrNull_lt hn) h
        next =>
          obtain ⟨-, -, h⟩ := Result.bind_eq_ok h
          exact ih hstart hstop h

/-- A range that is read from a text is well-formed. -/
theorem wellFormed_of_ofDocument {room : Nat} {d : Document} {r : EditRange}
    (h : ofDocument room d = .ok r) : r.WellFormed := by
  unfold ofDocument at h
  split at h
  next fields cut =>
    obtain ⟨-, -, h⟩ := Result.bind_eq_ok h
    obtain ⟨⟨start, stop⟩, hfields, h⟩ := Result.bind_eq_ok h
    obtain ⟨-, -, h⟩ := Result.bind_eq_ok h
    obtain ⟨hstart, hstop⟩ := lt_of_ofDocumentFields (by simp) (by simp) hfields
    cases start with
    | none => cases h
    | some start => exact wellFormed_of_checked (hstart start rfl) hstop h
  next items cut =>
    obtain ⟨-, -, h⟩ := Result.bind_eq_ok h
    split at h
    next =>
      obtain ⟨-, -, h⟩ := Result.bind_eq_ok h
      cases h
    next first =>
      obtain ⟨start, hstart, h⟩ := Result.bind_eq_ok h
      obtain ⟨-, -, h⟩ := Result.bind_eq_ok h
      exact wellFormed_of_checked (Document.offset_lt hstart) (by simp) h
    next first second rest =>
      obtain ⟨start, hstart, h⟩ := Result.bind_eq_ok h
      obtain ⟨stop, hstop, h⟩ := Result.bind_eq_ok h
      obtain ⟨-, -, h⟩ := Result.bind_eq_ok h
      exact wellFormed_of_checked (Document.offset_lt hstart) (Document.offsetOrNull_lt hstop) h
  next => exact absurd h (Document.unexpected_ne_ok _ _ _)

end EditRange

/-! ## Mutations -/

namespace Mutation

namespace Head

/-- The range that has been met so far is well-formed, and the fields that have been kept have
no key that is common to all kinds, to the end of the fields. -/
theorem wellFormed_of_headOfFields {room : Nat} {fields : List (Option String × Document)}
    {range range' : Option EditRange} {tag tag' : Option String}
    {others others' : List (String × Json)} (hrange : ∀ r, range = some r → r.WellFormed)
    (hothers : ∀ e ∈ others, isHeadKey e.1 = false)
    (h : headOfFields room range tag others fields = .ok (range', tag', others')) :
    (∀ r, range' = some r → r.WellFormed) ∧ ∀ e ∈ others', isHeadKey e.1 = false := by
  induction fields generalizing range tag others with
  | nil =>
    cases h
    exact ⟨hrange, fun e he => hothers e (List.mem_reverse.1 he)⟩
  | cons field rest ih =>
    rcases field with ⟨_ | key, d⟩
    · cases h
    · rw [headOfFields] at h
      split at h
      next =>
        obtain ⟨-, -, h⟩ := Result.bind_eq_ok h
        obtain ⟨r, hr, h⟩ := Result.bind_eq_ok h
        refine ih ?_ hothers h
        rintro _ ⟨⟩
        exact EditRange.wellFormed_of_ofDocument hr
      next hkey =>
        split at h
        next =>
          obtain ⟨-, -, h⟩ := Result.bind_eq_ok h
          obtain ⟨t, -, h⟩ := Result.bind_eq_ok h
          exact ih hrange hothers h
        next htype =>
          obtain ⟨v, -, h⟩ := Result.bind_eq_ok h
          refine ih hrange (List.forall_mem_cons.2 ⟨?_, hothers⟩) h
          simp [isHeadKey, hkey, htype]

theorem eq_of_checked {range : Option EditRange} {tag : Option String} {fields : Dict Json}
    {head : Head} (h : checked range tag fields = .ok head) :
    range = some head.range ∧ head.fields = fields := by
  unfold checked at h
  split at h
  · cases h
  · cases h
  · cases h
    exact ⟨rfl, rfl⟩

/-- A head that is read from a text has a well-formed range and no fields under common keys. -/
theorem wellFormed_of_ofDocument {room : Nat} {d : Document} {head : Head}
    (h : ofDocument room d = .ok head) : head.range.WellFormed ∧ HeadFree head.fields := by
  unfold ofDocument at h
  split at h
  next fields cut =>
    obtain ⟨inner, -, h⟩ := Result.bind_eq_ok h
    obtain ⟨⟨range, tag, others⟩, hfields, h⟩ := Result.bind_eq_ok h
    obtain ⟨-, -, h⟩ := Result.bind_eq_ok h
    obtain ⟨rfl, hothers⟩ := eq_of_checked h
    obtain ⟨hrange, hfree⟩ := wellFormed_of_headOfFields (by simp) (by simp) hfields
    refine ⟨hrange _ rfl, ?_⟩
    intro key hkey
    rw [hothers, Dict.get?_ofList, Dict.find?_eq_none_iff]
    rintro e he rfl
    rw [hfree e (List.mem_reverse.1 he)] at hkey
    cases hkey
  next => exact absurd h (Document.unexpected_ne_ok _ _ _)

/-- The mutation of a well-formed head is well-formed if its children are. -/
theorem Makes.wellFormed {head : Head} {children : Except DecodeError (List Mutation)}
    {m : Mutation} (h : head.Makes children m) (hrange : head.range.WellFormed)
    (hfields : HeadFree head.fields)
    (hchildren : ∀ ms, children = .ok ms → ∀ c ∈ ms, c.WellFormed) : m.WellFormed := by
  cases h with
  | delete => exact .delete hrange
  | insert => exact .insert hrange
  | replace => exact .replace hrange
  | swap => exact .swap hrange
  | multiple htag hms => exact .multiple hrange (hchildren _ hms)
  | custom htag => exact .custom hrange htag hfields

end Head

/-- A mutation that is read from a text is well-formed. -/
theorem wellFormed_of_ofDocument {room : Nat} {d : Document} {m : Mutation}
    (h : ofDocument room d = .ok m) : m.WellFormed := by
  obtain ⟨head, hhead, hmade⟩ := Result.bind_eq_ok h
  obtain ⟨hrange, hfields⟩ := Head.wellFormed_of_ofDocument hhead
  have hmakes : head.Makes head.children m := Head.toMutation_eq_ok_iff.1 hmade
  refine hmakes.wellFormed hrange hfields ?_
  intro ms hms
  obtain ⟨items, -, hitems⟩ := Head.children_eq_ok_iff.1 hms
  exact wellFormed_of_listOfJson (.array items) ms (listOfJson_eq_ok_iff.2 ⟨items, rfl, hitems⟩)

/-- A mutation was read, from a value or from some part of a text. -/
inductive Read (m : Mutation) : Prop where
  | value {v : Json} (h : ofJson v = .ok m) : Read m
  | text {room : Nat} {d : Document} (h : ofDocument room d = .ok m) : Read m

theorem Read.wellFormed {m : Mutation} (h : m.Read) : m.WellFormed := by
  cases h with
  | value h => exact wellFormed_of_ofJson _ m h
  | text h => exact wellFormed_of_ofDocument h

end Mutation

end EditWaves
