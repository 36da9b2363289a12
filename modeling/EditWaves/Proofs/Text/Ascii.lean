import Mathlib.Data.List.Basic
import EditWaves.Text.Utf8

/-!
# ASCII in UTF-8

The bytes below 128 stand for characters of their own, and no other character has such a byte
in it.  A text may therefore be searched for an ASCII character, and cut before or behind it,
byte by byte.

* `mem_ofChars_iff`: the byte of an ASCII character is there if the character is.
* `exists_of_ofChars_eq`: what stands before it and behind it is whole characters.
* `ofChars_injective`, `fromUTF8?_ofChars`: bytes are read as the characters they were made of.
-/

namespace EditWaves.Text.Utf8

@[simp] theorem ofChars_nil : ofChars [] = [] := rfl

theorem ofChars_cons (c : Char) (cs : List Char) :
    ofChars (c :: cs) = String.utf8EncodeChar c ++ ofChars cs := rfl

@[simp] theorem ofChars_append (cs ds : List Char) :
    ofChars (cs ++ ds) = ofChars cs ++ ofChars ds :=
  List.flatMap_append

theorem toByteArray_ofChars (cs : List Char) :
    (ofChars cs).toByteArray = (String.ofList cs).toByteArray :=
  String.toByteArray_ofList.symm

/-- Different texts have different bytes. -/
theorem ofChars_injective {cs ds : List Char} (h : ofChars cs = ofChars ds) : cs = ds := by
  have hbytes := congrArg List.toByteArray h
  rw [toByteArray_ofChars, toByteArray_ofChars] at hbytes
  exact String.ofList_injective (String.toByteArray_inj.1 hbytes)

/-- The bytes of characters are read as a text of these characters. -/
theorem fromUTF8?_ofChars (cs : List Char) :
    String.fromUTF8? (ofChars cs).toByteArray = some (String.ofList cs) := by
  have hvalid : (ofChars cs).toByteArray.IsValidUTF8 := ByteArray.isValidUTF8_utf8Encode
  rw [String.fromUTF8?, dif_pos hvalid]
  exact congrArg some (String.toByteArray_inj.1 (toByteArray_ofChars cs))

/-! ## The bytes of one character -/

/-- A character is a single byte below 128, or all its bytes are at least 128. -/
theorem utf8EncodeChar_cases (c : Char) :
    c.toNat < 128 ∧ String.utf8EncodeChar c = [c.toUInt8] ∨
      ∀ b ∈ String.utf8EncodeChar c, 128 ≤ b.toNat := by
  have hval : c.toNat = c.val.toNat := rfl
  rcases Nat.lt_or_ge c.toNat 128 with h | h
  · refine .inl ⟨h, ?_⟩
    rw [String.utf8EncodeChar, if_pos (by omega)]
    rfl
  · refine .inr ?_
    have hofNat : ∀ n, (UInt8.ofNat n).toNat = n % 256 := fun n => UInt8.toNat_ofNat'
    rw [String.utf8EncodeChar, if_neg (by omega)]
    intro b hb
    split at hb
    · simp only [List.mem_cons, List.not_mem_nil, or_false] at hb
      rcases hb with rfl | rfl <;> rw [hofNat] <;> omega
    · split at hb
      · simp only [List.mem_cons, List.not_mem_nil, or_false] at hb
        rcases hb with rfl | rfl | rfl <;> rw [hofNat] <;> omega
      · simp only [List.mem_cons, List.not_mem_nil, or_false] at hb
        rcases hb with rfl | rfl | rfl | rfl <;> rw [hofNat] <;> omega

theorem toNat_toUInt8 {a : Char} (ha : a.toNat < 128) : a.toUInt8.toNat = a.toNat := by
  have hmod : a.toUInt8.toNat = a.toNat % 256 := UInt8.toNat_ofNat'
  omega

theorem utf8EncodeChar_ascii {a : Char} (ha : a.toNat < 128) :
    String.utf8EncodeChar a = [a.toUInt8] := by
  rcases utf8EncodeChar_cases a with ⟨-, h⟩ | h
  · exact h
  · rw [String.utf8EncodeChar, if_pos (by exact Nat.le_of_lt_succ ha)]
    rfl

theorem ofChars_cons_ascii {a : Char} (ha : a.toNat < 128) (cs : List Char) :
    ofChars (a :: cs) = a.toUInt8 :: ofChars cs := by
  rw [ofChars_cons, utf8EncodeChar_ascii ha]
  rfl

theorem length_ofChars_ascii {cs : List Char} (h : ∀ a ∈ cs, a.toNat < 128) :
    (ofChars cs).length = cs.length := by
  induction cs with
  | nil => rfl
  | cons a cs ih =>
    obtain ⟨ha, hcs⟩ := List.forall_mem_cons.1 h
    rw [ofChars_cons_ascii ha, List.length_cons, ih hcs, List.length_cons]

/-- The byte of an ASCII character occurs in no other character. -/
theorem toUInt8_mem_utf8EncodeChar {a c : Char} (ha : a.toNat < 128)
    (h : a.toUInt8 ∈ String.utf8EncodeChar c) : c = a := by
  have hbyte := toNat_toUInt8 ha
  rcases utf8EncodeChar_cases c with ⟨hc, hone⟩ | hc
  · rw [hone, List.mem_singleton] at h
    have hnat : c.toNat = a.toNat := by rw [← toNat_toUInt8 hc, ← h, hbyte]
    rw [← Char.ofNat_toNat c, hnat, Char.ofNat_toNat]
  · have := hc _ h
    omega

/-! ## ASCII characters in a text -/

section Ascii

variable {a : Char} (ha : a.toNat < 128) {cs : List Char}

include ha

theorem mem_ofChars_iff : a.toUInt8 ∈ ofChars cs ↔ a ∈ cs := by
  constructor
  · intro h
    obtain ⟨c, hc, hmem⟩ := List.mem_flatMap.1 h
    rwa [← toUInt8_mem_utf8EncodeChar ha hmem]
  · intro h
    refine List.mem_flatMap.2 ⟨a, h, ?_⟩
    rw [utf8EncodeChar_ascii ha]
    exact List.mem_singleton_self _

/-- An ASCII byte is a character of its own, and whole characters stand on both sides of it. -/
theorem exists_of_ofChars_eq {front back : List UInt8}
    (h : ofChars cs = front ++ a.toUInt8 :: back) :
    ∃ cs₁ cs₂, cs = cs₁ ++ a :: cs₂ ∧ ofChars cs₁ = front ∧ ofChars cs₂ = back := by
  induction cs generalizing front with
  | nil => cases front <;> cases h
  | cons c cs ih =>
    -- The byte cannot lie inside `c`, so what is left of `front` behind `c` is met in `cs`.
    have hbehind : ∀ more, front = String.utf8EncodeChar c ++ more →
        ofChars cs = more ++ a.toUInt8 :: back →
        ∃ cs₁ cs₂, c :: cs = cs₁ ++ a :: cs₂ ∧ ofChars cs₁ = front ∧ ofChars cs₂ = back := by
      intro more hfront hrest
      obtain ⟨cs₁, cs₂, rfl, hcs₁, hcs₂⟩ := ih hrest
      exact ⟨c :: cs₁, cs₂, rfl, by rw [ofChars_cons, hcs₁, hfront], hcs₂⟩
    by_cases hca : c = a
    · subst hca
      rw [ofChars_cons_ascii ha] at h
      cases front with
      | nil => exact ⟨[], cs, rfl, rfl, (List.cons.inj h).2⟩
      | cons b front =>
        obtain ⟨rfl, hrest⟩ := List.cons.inj h
        exact hbehind front (by rw [utf8EncodeChar_ascii ha]; rfl) hrest
    · rw [ofChars_cons] at h
      rcases List.append_eq_append_iff.1 h with ⟨more, hfront, hrest⟩ | ⟨more, hc, hback⟩
      · exact hbehind more hfront hrest
      · cases more with
        | nil => exact hbehind [] (by rw [hc, List.append_nil, List.append_nil]) hback.symm
        | cons b more =>
          obtain ⟨rfl, -⟩ := List.cons.inj hback
          have hmem : a.toUInt8 ∈ String.utf8EncodeChar c :=
            hc ▸ List.mem_append_right front List.mem_cons_self
          exact absurd (toUInt8_mem_utf8EncodeChar ha hmem) hca

/-- What starts with an ASCII byte starts with that character. -/
theorem exists_of_ofChars_eq_cons {back : List UInt8} (h : ofChars cs = a.toUInt8 :: back) :
    ∃ cs', cs = a :: cs' ∧ ofChars cs' = back := by
  have hsplit : ofChars cs = [] ++ a.toUInt8 :: back := h
  obtain ⟨cs₁, cs₂, rfl, hfront, hback⟩ := exists_of_ofChars_eq ha hsplit
  cases cs₁ with
  | nil => exact ⟨cs₂, rfl, hback⟩
  | cons c cs₁ =>
    rw [ofChars_cons] at hfront
    exact absurd (List.append_eq_nil_iff.1 hfront).1 String.utf8EncodeChar_ne_nil

end Ascii

end EditWaves.Text.Utf8
