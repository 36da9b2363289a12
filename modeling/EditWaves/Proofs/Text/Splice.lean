import Mathlib.Data.String.Basic
import EditWaves.Text.Splice

/-!
# Splicing bytes is splicing characters

`Text.splice` cuts a text at two byte positions.  Both are positions where a
character starts, so the cut never falls inside a character and the result can be
said in characters alone: `toList_splice`.  Offsets past the end need no case of
their own, since `List.take` and `List.drop` stop at the end as well.

* `slice_append_drop`: a text cut at two positions.
* `get?_byteIndex` and `isValid_byteIndex`: where the bytes of a character start.
* `toList_splice` and `toList_splice_clamped`: the characters of a spliced text.
* `splice_within_bounds`: its bytes, none of which is cut out of a character.
-/

namespace EditWaves.Text

open String (utf8Len ofList)

/-! ## Slices -/

theorem slice_eq_drop (s : List Char) (start stop : Nat) :
    slice s start stop = (s.take stop).drop start :=
  List.drop_take.symm

theorem slice_zero (s : List Char) (stop : Nat) : slice s 0 stop = s.take stop := rfl

theorem slice_length (s : List Char) (start : Nat) : slice s start s.length = s.drop start := by
  rw [slice_eq_drop, List.take_length]

theorem slice_of_length_le {s : List Char} {start : Nat} (stop : Nat) (h : s.length ≤ start) :
    slice s start stop = [] := by
  rw [slice, List.drop_of_length_le h, List.take_nil]

theorem length_slice {s : List Char} {start stop : Nat} (hle : start ≤ stop)
    (hstop : stop ≤ s.length) : stop = start + (slice s start stop).length := by
  rw [slice, List.length_take, List.length_drop]
  omega

/-- The rest of a text, up to a position and from it on. -/
theorem slice_append_drop {s : List Char} {start stop : Nat} (hle : start ≤ stop) :
    slice s start stop ++ s.drop stop = s.drop start := by
  have hdrop : s.drop stop = (s.drop start).drop (stop - start) := by
    rw [List.drop_drop]
    congr 1
    omega
  rw [slice, hdrop, List.take_append_drop]

/-! ## Bytes and characters -/

/-- A byte index is the number of bytes of the characters before it. -/
theorem byteIndex_eq_utf8Len (s : String) (offset : Nat) :
    byteIndex s offset = utf8Len (s.toList.take offset) := by
  rw [byteIndex]
  induction s.toList.take offset with
  | nil => rfl
  | cons c cs ih =>
    rw [List.foldr_cons, ih, String.utf8Len_cons]
    omega

theorem byteIndex_zero (s : String) : byteIndex s 0 = 0 := by
  rw [byteIndex_eq_utf8Len, List.take_zero, String.utf8Len_nil]

theorem byteIndex_length (s : String) : byteIndex s s.toList.length = s.utf8ByteSize := by
  rw [byteIndex_eq_utf8Len, List.take_length, String.utf8Len_toList]

theorem byteIndex_mono (s : String) {a b : Nat} (h : a ≤ b) :
    byteIndex s a ≤ byteIndex s b := by
  rw [byteIndex_eq_utf8Len, byteIndex_eq_utf8Len]
  exact String.utf8Len_le_of_prefix (List.take_prefix_take_left h)

/-- The byte position of the later of two offsets. -/
theorem max_byteIndex (s : String) (a b : Nat) :
    max (byteIndex s a) (byteIndex s b) = byteIndex s (max a b) := by
  rcases Nat.le_total a b with h | h
  · rw [Nat.max_eq_right h, Nat.max_eq_right (byteIndex_mono s h)]
  · rw [Nat.max_eq_left h, Nat.max_eq_left (byteIndex_mono s h)]

/-- The bytes between two byte indexes are the characters between the offsets. -/
theorem bytesBetween_byteIndex (s : String) {a b : Nat} (h : a ≤ b) :
    bytesBetween s (byteIndex s a) (byteIndex s b) = ofList (slice s.toList a b) := by
  have hleft : (s.toList.take b).take a = s.toList.take a := by
    rw [List.take_take, Nat.min_eq_left h]
  have hparts : s = ofList (s.toList.take a ++ (s.toList.take b).drop a ++ s.toList.drop b) := by
    rw [← hleft, List.take_append_drop, List.take_append_drop, String.ofList_toList]
  have hlen : byteIndex s b
      = utf8Len (s.toList.take a) + utf8Len ((s.toList.take b).drop a) := by
    rw [byteIndex_eq_utf8Len, ← hleft, ← String.utf8Len_append, List.take_append_drop]
  rw [slice_eq_drop, hlen, byteIndex_eq_utf8Len, bytesBetween]
  conv_lhs => arg 1; rw [hparts]
  exact String.extract_of_valid _ _ _

/-- The characters of a spliced text: those before `start`, then the insertion, then
those from `stop` on. -/
@[simp] theorem toList_splice (s : String) (start stop : Nat) (insertion : String) :
    (splice s start stop insertion).toList
      = s.toList.take start ++ insertion.toList ++ s.toList.drop (max start stop) := by
  have hfront : bytesBetween s 0 (byteIndex s start) = ofList (s.toList.take start) := by
    have h := bytesBetween_byteIndex s (Nat.zero_le start)
    rwa [byteIndex_zero, slice_zero] at h
  have hback : bytesBetween s (byteIndex s (max start stop)) s.utf8ByteSize
      = ofList (s.toList.drop (max start stop)) := by
    rcases Nat.le_total (max start stop) s.toList.length with h | h
    · have hbytes := bytesBetween_byteIndex s h
      rwa [byteIndex_length, slice_length] at hbytes
    · have hend : byteIndex s (max start stop) = s.utf8ByteSize := by
        rw [byteIndex_eq_utf8Len, List.take_of_length_le h, String.utf8Len_toList]
      rw [hend, List.drop_of_length_le h, bytesBetween, String.Pos.Raw.extract,
        if_pos (Nat.le_refl _), String.ofList_nil]
  have hresume : max (byteIndex s stop) (byteIndex s start) = byteIndex s (max start stop) := by
    rw [Nat.max_comm, max_byteIndex]
  simp only [splice]
  rw [hresume, hfront, hback]
  simp only [String.toList_append, String.toList_ofList]

/-- A cut of no characters, or one behind the end of the text, into which nothing is put
changes nothing. -/
theorem splice_eq_self {s : String} {start stop : Nat}
    (h : stop ≤ start ∨ s.toList.length ≤ start) : splice s start stop "" = s := by
  rw [← String.toList_inj, toList_splice, String.toList_empty, List.append_nil]
  rcases h with h | h
  · rw [Nat.max_eq_left h, List.take_append_drop]
  · have hmax : s.toList.length ≤ max start stop := Nat.le_trans h (Nat.le_max_left _ _)
    rw [List.take_of_length_le h, List.drop_of_length_le hmax, List.append_nil]

/-- The characters of a spliced text, with both offsets clamped to the text. -/
theorem toList_splice_clamped (s : String) (start stop : Nat) (insertion : String) :
    (splice s start stop insertion).toList
      = s.toList.take (min start s.toList.length) ++ insertion.toList
        ++ s.toList.drop (max (min start s.toList.length) (min stop s.toList.length)) := by
  have hdrop : s.toList.drop (max start stop)
      = s.toList.drop (max (min start s.toList.length) (min stop s.toList.length)) := by
    rw [List.drop_eq_drop_iff]
    omega
  rw [toList_splice, List.take_eq_take_min, hdrop]

/-! ## Bytes -/

theorem eq_append_ofList (s : String) (offset : Nat) :
    s = ofList (s.toList.take offset) ++ ofList (s.toList.drop offset) := by
  rw [← String.ofList_append, List.take_append_drop, String.ofList_toList]

/-- A byte index is a boundary between characters. -/
theorem isValid_byteIndex (s : String) (offset : Nat) :
    String.Pos.Raw.IsValid s ⟨byteIndex s offset⟩ := by
  refine String.Pos.Raw.isValid_iff_exists_append.2 ⟨_, _, eq_append_ofList s offset, ?_⟩
  rw [byteIndex_eq_utf8Len, String.rawEndPos_ofList]

theorem byteIndex_le (s : String) (offset : Nat) : byteIndex s offset ≤ s.utf8ByteSize :=
  (isValid_byteIndex s offset).le_rawEndPos

/-- At a byte index starts the character with this number, if there is one. -/
theorem get?_byteIndex (s : String) (offset : Nat) :
    String.Pos.Raw.get? s ⟨byteIndex s offset⟩ = s.toList[offset]? := by
  have h := String.get?_of_valid (s.toList.take offset) (s.toList.drop offset)
  rwa [List.take_append_drop, String.ofList_toList, ← byteIndex_eq_utf8Len, List.head?_drop] at h

theorem size_toByteArray_take (s : String) (offset : Nat) :
    (ofList (s.toList.take offset)).toByteArray.size = byteIndex s offset := by
  rw [String.size_toByteArray, String.utf8ByteSize_ofList, byteIndex_eq_utf8Len]

theorem toByteArray_split (s : String) (offset : Nat) : s.toByteArray
    = (ofList (s.toList.take offset)).toByteArray
      ++ (ofList (s.toList.drop offset)).toByteArray := by
  rw [← String.toByteArray_append, ← eq_append_ofList]

/-- The bytes before a byte index are those of the characters before the offset. -/
theorem extract_byteIndex (s : String) (offset : Nat) :
    s.toByteArray.extract 0 (byteIndex s offset)
      = (ofList (s.toList.take offset)).toByteArray := by
  rw [toByteArray_split s offset,
    ByteArray.extract_append_eq_left (size_toByteArray_take s offset).symm]

/-- The bytes from a byte index on are those of the characters from the offset on. -/
theorem extract_from_byteIndex (s : String) (offset : Nat) :
    s.toByteArray.extract (byteIndex s offset) s.utf8ByteSize
      = (ofList (s.toList.drop offset)).toByteArray := by
  have hsize : s.utf8ByteSize = (ofList (s.toList.take offset)).toByteArray.size
      + (ofList (s.toList.drop offset)).toByteArray.size := by
    rw [← ByteArray.size_append, ← toByteArray_split, String.size_toByteArray]
  rw [toByteArray_split s offset,
    ByteArray.extract_append_eq_right (size_toByteArray_take s offset).symm hsize]

/-- A splice cuts a text at two boundaries between characters, the second not before the first
and neither behind the end: where the characters with the numbers `start` and `stop` begin, or at
the end if there are none.  The bytes before the first cut and those from the second on are kept,
with the insertion in between, so the size is that of the text less what lies between the cuts.  In
characters, the first ones up to `start` are kept and those from `stop` on, or from `start` on if
this is not before `stop`; an offset behind the end stands for the end. -/
theorem splice_within_bounds (s insertion : String) (start stop : Nat) :
    let cut := byteIndex s start
    let resume := max (byteIndex s stop) cut
    let n := s.toList.length
    (String.Pos.Raw.IsValid s ⟨cut⟩ ∧ String.Pos.Raw.get? s ⟨cut⟩ = s.toList[start]?) ∧
      (String.Pos.Raw.IsValid s ⟨byteIndex s stop⟩ ∧
        String.Pos.Raw.get? s ⟨byteIndex s stop⟩ = s.toList[stop]?) ∧
      String.Pos.Raw.IsValid s ⟨resume⟩ ∧ cut ≤ resume ∧ resume ≤ s.utf8ByteSize ∧
      (splice s start stop insertion).toByteArray = s.toByteArray.extract 0 cut
        ++ insertion.toByteArray ++ s.toByteArray.extract resume s.utf8ByteSize ∧
      (splice s start stop insertion).utf8ByteSize
        = s.utf8ByteSize - (resume - cut) + insertion.utf8ByteSize ∧
      (splice s start stop insertion).toList = s.toList.take (min start n) ++ insertion.toList
        ++ s.toList.drop (max (min start n) (min stop n)) := by
  intro cut resume n
  have hresume : resume = byteIndex s (max start stop) := by
    rw [← max_byteIndex, Nat.max_comm]
  have hle : cut ≤ resume := Nat.le_max_right _ _
  have hsize : resume ≤ s.utf8ByteSize := hresume ▸ byteIndex_le s _
  have hbytes : (splice s start stop insertion).toByteArray = s.toByteArray.extract 0 cut
      ++ insertion.toByteArray ++ s.toByteArray.extract resume s.utf8ByteSize := by
    rw [hresume, extract_byteIndex, extract_from_byteIndex, ← String.toByteArray_append,
      ← String.toByteArray_append, String.toByteArray_inj, ← String.toList_inj]
    simp only [toList_splice, String.toList_append, String.toList_ofList]
  refine ⟨⟨isValid_byteIndex s start, get?_byteIndex s start⟩,
    ⟨isValid_byteIndex s stop, get?_byteIndex s stop⟩, hresume ▸ isValid_byteIndex s _, hle, hsize,
    hbytes, ?_, toList_splice_clamped s start stop insertion⟩
  have hcount := congrArg ByteArray.size hbytes
  simp only [ByteArray.size_append, ByteArray.size_extract, String.size_toByteArray] at hcount
  omega

end EditWaves.Text
