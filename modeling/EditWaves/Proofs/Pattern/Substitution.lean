import EditWaves.Pattern.Template
import EditWaves.Proofs.Text.Ascii

/-!
# Substitution by templates

What a template means is said in characters and without a scanner, as ECMAScript says it in
`GetSubstitution`: `Refers` lists the references, and `Substitutes` copies everything else, a
dollar without a reference included.

The scanner reads bytes.  Since every mark is an ASCII character, it finds a mark where the
character is and nowhere else, and what it takes is whole characters.

* `reference_eq_some_iff`: the scanner reads the references and no others.
* `expandBytes_of_substitutes`: the bytes that it writes are those of the substitution.
* `substitutes_expand`: every template is expanded, to what it means.
-/

namespace EditWaves.Pattern

open EditWaves.Text

/-! ## What a template means -/

/-- The text of a group: what it covers, or nothing if it took no part in the match. -/
inductive Captured (c : Context) : Nat → List Char → Prop where
  | covered {index start stop : Nat} (h : c.found.groups[index]? = some (some (start, stop))) :
      Captured c (index + 1) ((c.text.drop start).take (stop - start))
  | absent {index : Nat} (h : c.found.groups[index]? = some none) : Captured c (index + 1) []

/-- The text of the group with a name: nothing if there is no such group. -/
inductive CapturedAs (c : Context) (name : List Char) : List Char → Prop where
  | group {index : Nat} {text : List Char}
      (hname : c.names.lookup (String.ofList name) = some index) (h : Captured c index text) :
      CapturedAs c name text
  | missing (h : ∀ index, c.names.lookup (String.ofList name) = some index →
      ¬(1 ≤ index ∧ index ≤ c.found.groups.length)) : CapturedAs c name []

/-- What follows a dollar refers to a text.  The rest of the template matters for a number of
one digit, which must not be the first digit of a group's number. -/
inductive Refers (c : Context) : List Char → List Char → List Char → Prop where
  | dollar {rest : List Char} : Refers c ['$'] rest ['$']
  | whole {rest : List Char} :
      Refers c ['&'] rest ((c.text.drop c.found.start).take (c.found.stop - c.found.start))
  | before {rest : List Char} : Refers c [backquote] rest (c.text.take c.found.start)
  | after {rest : List Char} : Refers c [apostrophe] rest (c.text.drop c.found.stop)
  | twoDigits {tens ones : Nat} {rest text : List Char} (htens : tens < 10) (hones : ones < 10)
      (h : Captured c (tens * 10 + ones) text) :
      Refers c [tens.digitChar, ones.digitChar] rest text
  | oneDigit {number : Nat} {rest text : List Char} (hnumber : number < 10)
      (h : Captured c number text)
      (hlonger : ∀ ones < 10, ∀ more, rest = ones.digitChar :: more →
        ¬(1 ≤ number * 10 + ones ∧ number * 10 + ones ≤ c.found.groups.length)) :
      Refers c [number.digitChar] rest text
  | named {name rest text : List Char} (hnames : c.names ≠ []) (hname : '>' ∉ name)
      (h : CapturedAs c name text) : Refers c ('<' :: name ++ ['>']) rest text

/-- A template stands for a text: references are replaced, and all other characters are copied.
A dollar with which no reference begins is copied too, and what follows it is read anew. -/
inductive Substitutes (c : Context) : List Char → List Char → Prop where
  | nil : Substitutes c [] []
  | plain {d : Char} {rest text : List Char} (hd : d ≠ '$') (h : Substitutes c rest text) :
      Substitutes c (d :: rest) (d :: text)
  | reference {ref rest text more : List Char} (href : Refers c ref rest text)
      (h : Substitutes c rest more) : Substitutes c ('$' :: ref ++ rest) (text ++ more)
  | literal {rest text : List Char}
      (hnone : ∀ ref back referred, rest = ref ++ back → ¬Refers c ref back referred)
      (h : Substitutes c rest text) : Substitutes c ('$' :: rest) ('$' :: text)

variable {c : Context}

/-! ## Groups -/

theorem hasGroup_iff {index : Nat} :
    c.hasGroup index = true ↔ 1 ≤ index ∧ index ≤ c.found.groups.length := by
  rw [Context.hasGroup, Context.groupCount, Bool.and_eq_true, decide_eq_true_iff,
    decide_eq_true_iff]

/-- A group that there is has one text. -/
theorem captured_iff {index : Nat} {text : List Char} :
    Captured c index text ↔ c.hasGroup index = true ∧ c.group index = text := by
  rw [hasGroup_iff]
  constructor
  · rintro (@⟨index, start, stop, h⟩ | @⟨index, h⟩)
    · have hlt := (List.getElem?_eq_some_iff.1 h).1
      exact ⟨by omega, by simp only [Context.group, h, slice]⟩
    · have hlt := (List.getElem?_eq_some_iff.1 h).1
      exact ⟨by omega, by simp only [Context.group, h]⟩
  · rintro ⟨⟨hpos, hle⟩, rfl⟩
    obtain ⟨index, rfl⟩ : ∃ n, index = n + 1 := ⟨index - 1, by omega⟩
    have hget := List.getElem?_eq_getElem (show index < c.found.groups.length by omega)
    rcases hgroup : c.found.groups[index] with _ | ⟨start, stop⟩
    · rw [hgroup] at hget
      have hnothing : c.group (index + 1) = [] := by rw [Context.group, hget]
      rw [hnothing]
      exact .absent hget
    · rw [hgroup] at hget
      have hcovers : c.group (index + 1) = slice c.text start stop := by rw [Context.group, hget]
      rw [hcovers]
      exact .covered hget

theorem group_of_not_hasGroup {index : Nat} (h : c.hasGroup index = false) :
    c.group index = [] := by
  cases index with
  | zero => rfl
  | succ index =>
    have hnot : ¬(1 ≤ index + 1 ∧ index + 1 ≤ c.found.groups.length) := by
      rw [← hasGroup_iff, h]
      decide
    rw [Context.group, List.getElem?_eq_none (by omega)]

/-- A name is found by its bytes. -/
theorem find?_ofChars (names : List (String × Nat)) (name : List Char) :
    (names.find? (fun entry => Utf8.ofChars entry.1.toList == Utf8.ofChars name)).map Prod.snd
      = names.lookup (String.ofList name) := by
  induction names with
  | nil => rfl
  | cons entry names ih =>
    have hkey : (Utf8.ofChars entry.1.toList == Utf8.ofChars name)
        = (String.ofList name == entry.1) := by
      rw [Bool.eq_iff_iff, beq_iff_eq, beq_iff_eq]
      constructor
      · intro h
        rw [← Utf8.ofChars_injective h, String.ofList_toList]
      · intro h
        rw [← h, String.toList_ofList]
    rw [List.find?_cons, List.lookup_cons, hkey]
    cases String.ofList name == entry.1 with
    | true => rfl
    | false => exact ih

theorem namedGroup_ofChars (name : List Char) : c.namedGroup (Utf8.ofChars name)
    = match c.names.lookup (String.ofList name) with
      | some index => c.group index
      | none => [] := by
  rw [Context.namedGroup, ← find?_ofChars]
  cases c.names.find? (fun entry => Utf8.ofChars entry.1.toList == Utf8.ofChars name) <;> rfl

/-- Every name has one text. -/
theorem capturedAs_iff {name text : List Char} :
    CapturedAs c name text ↔ c.namedGroup (Utf8.ofChars name) = text := by
  rw [namedGroup_ofChars]
  constructor
  · rintro (@⟨index, _, hname, h⟩ | h)
    · rw [hname]
      exact (captured_iff.1 h).2
    · cases hname : c.names.lookup (String.ofList name) with
      | none => rfl
      | some index =>
        have hgroup : c.hasGroup index = false := by
          rw [Bool.eq_false_iff]
          exact fun hhas => h index hname (hasGroup_iff.1 hhas)
        exact group_of_not_hasGroup hgroup
  · rintro rfl
    cases hname : c.names.lookup (String.ofList name) with
    | none => exact .missing (by rw [hname]; rintro _ ⟨⟩)
    | some index =>
      cases hgroup : c.hasGroup index with
      | true => exact .group hname (captured_iff.2 ⟨hgroup, rfl⟩)
      | false =>
        have hnothing := group_of_not_hasGroup hgroup
        simp only [hnothing]
        refine .missing ?_
        intro _ hsome hhas
        obtain rfl := Option.some.inj (hname.symm.trans hsome)
        rw [hasGroup_iff.2 hhas] at hgroup
        cases hgroup

/-! ## Digits -/

theorem digitChar_lt : ∀ digit < 10, (Nat.digitChar digit).toNat < 128 := by decide

theorem toNat_digitChar : ∀ digit < 10, (Nat.digitChar digit).toUInt8.toNat = 48 + digit := by
  decide

theorem digitValue?_eq_some_iff {b : UInt8} {digit : Nat} :
    digitValue? b = some digit ↔ digit < 10 ∧ b = digit.digitChar.toUInt8 := by
  have hzero : '0'.toUInt8.toNat = 48 := rfl
  have hnine : '9'.toUInt8.toNat = 57 := rfl
  have hchar : '0'.toNat = 48 := rfl
  simp only [digitValue?, Bool.and_eq_true, decide_eq_true_iff, UInt8.le_iff_toNat_le, hzero,
    hnine, hchar, Option.ite_none_right_eq_some, Option.some.injEq]
  constructor
  · rintro ⟨⟨hlow, hhigh⟩, rfl⟩
    refine ⟨by omega, UInt8.toNat_inj.1 ?_⟩
    rw [toNat_digitChar _ (by omega)]
    omega
  · rintro ⟨hdigit, rfl⟩
    rw [toNat_digitChar digit hdigit]
    omega

theorem length_ofChars_digit {digit : Nat} (h : digit < 10) :
    (Utf8.ofChars [digit.digitChar]).length = 1 :=
  Utf8.length_ofChars_ascii (by simpa using digitChar_lt digit h)

theorem length_ofChars_digits {tens ones : Nat} (htens : tens < 10) (hones : ones < 10) :
    (Utf8.ofChars [tens.digitChar, ones.digitChar]).length = 2 :=
  Utf8.length_ofChars_ascii (by simpa using ⟨digitChar_lt tens htens, digitChar_lt ones hones⟩)

/-! ## Reading a reference -/

/-- A number of two digits is read if there is such a group. -/
theorem numberedReference_of_long {tens ones : Nat} (hones : ones < 10)
    (h : c.hasGroup (tens * 10 + ones) = true) (rest : List Char) :
    numberedReference c tens (Utf8.ofChars (ones.digitChar :: rest))
      = some (c.group (tens * 10 + ones), 2) := by
  have hvalue := digitValue?_eq_some_iff.2 ⟨hones, rfl⟩
  rw [Utf8.ofChars_cons_ascii (digitChar_lt ones hones), numberedReference]
  simp only [hvalue, h, if_true]

/-- Otherwise its first digit is read if there is such a group. -/
theorem numberedReference_of_short {number : Nat} {rest : List Char}
    (h : ∀ ones < 10, ∀ more, rest = ones.digitChar :: more →
      c.hasGroup (number * 10 + ones) = false) :
    numberedReference c number (Utf8.ofChars rest)
      = if c.hasGroup number then some (c.group number, 1) else none := by
  cases hbytes : Utf8.ofChars rest with
  | nil => rfl
  | cons b bytes =>
    rw [numberedReference]
    cases hvalue : digitValue? b with
    | none => rfl
    | some ones =>
      obtain ⟨hones, rfl⟩ := digitValue?_eq_some_iff.1 hvalue
      obtain ⟨more, rfl, -⟩ := Utf8.exists_of_ofChars_eq_cons (digitChar_lt ones hones) hbytes
      simp only [h ones hones more rfl, Bool.false_eq_true, if_false]

/-- A digit is none of the marks. -/
theorem reference_of_digit {b : UInt8} {digit : Nat} (h : digitValue? b = some digit)
    (rest : List UInt8) : reference c (b :: rest) = numberedReference c digit rest := by
  have hne : ∀ mark : UInt8, digitValue? mark = none → b ≠ mark := by
    rintro mark hmark rfl
    rw [h] at hmark
    cases hmark
  rw [reference, if_neg (hne _ rfl), if_neg (hne _ rfl), if_neg (hne _ rfl), if_neg (hne _ rfl),
    if_neg (hne _ rfl), h]

theorem idxOf?_eq_some_of_not_mem {a : UInt8} {front : List UInt8} (h : a ∉ front)
    (back : List UInt8) : (front ++ a :: back).idxOf? a = some front.length := by
  induction front with
  | nil => rw [List.nil_append, List.idxOf?_cons, if_pos (beq_self_eq_true a)]; rfl
  | cons b front ih =>
    have hne : ¬(b == a) = true := fun heq => List.ne_of_not_mem_cons h (eq_of_beq heq).symm
    rw [List.cons_append, List.idxOf?_cons, if_neg hne, ih (List.not_mem_of_not_mem_cons h)]
    rfl

/-- After its mark a name is read up to the first mark of its end. -/
theorem reference_name (rest : List UInt8) :
    reference c ('<'.toUInt8 :: rest) = if c.names.isEmpty then none
      else match rest.idxOf? '>'.toUInt8 with
        | some close => some (c.namedGroup (rest.take close), close + 2)
        | none => none := rfl

theorem reference_of_closed {front : List UInt8} (hnames : c.names ≠ [])
    (h : '>'.toUInt8 ∉ front) (back : List UInt8) :
    reference c ('<'.toUInt8 :: (front ++ '>'.toUInt8 :: back))
      = some (c.namedGroup front, front.length + 2) := by
  have hisEmpty : ¬c.names.isEmpty = true := by rwa [List.isEmpty_iff]
  rw [reference_name, if_neg hisEmpty, idxOf?_eq_some_of_not_mem h]
  simp only [List.take_left]

theorem reference_of_unclosed {rest : List UInt8} (h : c.names = [] ∨ '>'.toUInt8 ∉ rest) :
    reference c ('<'.toUInt8 :: rest) = none := by
  rw [reference_name]
  rcases h with h | h
  · rw [h]
    rfl
  · rw [List.idxOf?_eq_none_iff.2 h, ite_self]

/-- What the scanner reads at the front of a template is a reference. -/
def ReadsReference (c : Context) (cs text : List Char) (used : Nat) : Prop :=
  ∃ ref rest, cs = ref ++ rest ∧ (Utf8.ofChars ref).length = used ∧ Refers c ref rest text

section Reads

variable {cs text : List Char} {bytes : List UInt8} {used : Nat}

theorem readsReference_of_mark {mark : Char} (hmark : mark.toNat < 128)
    (hbytes : Utf8.ofChars cs = mark.toUInt8 :: bytes) (href : ∀ rest, Refers c [mark] rest text) :
    ReadsReference c cs text 1 := by
  obtain ⟨rest, rfl, -⟩ := Utf8.exists_of_ofChars_eq_cons hmark hbytes
  exact ⟨[mark], rest, rfl, Utf8.length_ofChars_ascii (by simpa using hmark), href rest⟩

theorem readsReference_of_digit {number : Nat} (hnumber : number < 10)
    (hbytes : Utf8.ofChars cs = number.digitChar.toUInt8 :: bytes)
    (h : numberedReference c number bytes = some (text, used)) :
    ReadsReference c cs text used := by
  obtain ⟨rest, rfl, rfl⟩ := Utf8.exists_of_ofChars_eq_cons (digitChar_lt number hnumber) hbytes
  by_cases hlong : ∃ ones < 10, ∃ more, rest = ones.digitChar :: more ∧
      c.hasGroup (number * 10 + ones) = true
  · obtain ⟨ones, hones, more, rfl, hgroup⟩ := hlong
    rw [numberedReference_of_long hones hgroup] at h
    obtain ⟨rfl, rfl⟩ := Prod.mk.inj (Option.some.inj h)
    exact ⟨[number.digitChar, ones.digitChar], more, rfl, length_ofChars_digits hnumber hones,
      .twoDigits hnumber hones (captured_iff.2 ⟨hgroup, rfl⟩)⟩
  · have hshort : ∀ ones < 10, ∀ more, rest = ones.digitChar :: more →
        c.hasGroup (number * 10 + ones) = false := by
      intro ones hones more hrest
      rw [Bool.eq_false_iff]
      exact fun hgroup => hlong ⟨ones, hones, more, hrest, hgroup⟩
    rw [numberedReference_of_short hshort] at h
    cases hgroup : c.hasGroup number with
    | false =>
      rw [hgroup] at h
      cases h
    | true =>
      rw [hgroup, if_pos rfl] at h
      obtain ⟨rfl, rfl⟩ := Prod.mk.inj (Option.some.inj h)
      refine ⟨[number.digitChar], rest, rfl, length_ofChars_digit hnumber,
        .oneDigit hnumber (captured_iff.2 ⟨hgroup, rfl⟩) ?_⟩
      intro ones hones more hrest
      rw [← hasGroup_iff, hshort ones hones more hrest]
      decide

theorem length_ofChars_name (name : List Char) :
    (Utf8.ofChars ('<' :: name ++ ['>'])).length = (Utf8.ofChars name).length + 2 := by
  rw [Utf8.ofChars_append, List.length_append, Utf8.ofChars_cons_ascii (by decide)]
  rfl

theorem readsReference_of_name (hbytes : Utf8.ofChars cs = '<'.toUInt8 :: bytes)
    (h : reference c ('<'.toUInt8 :: bytes) = some (text, used)) :
    ReadsReference c cs text used := by
  obtain ⟨rest, rfl, rfl⟩ := Utf8.exists_of_ofChars_eq_cons (by decide) hbytes
  by_cases hclosed : c.names ≠ [] ∧ '>'.toUInt8 ∈ Utf8.ofChars rest
  · obtain ⟨hnames, hmem⟩ := hclosed
    obtain ⟨front, back, hsplit, hfront⟩ := List.eq_append_cons_of_mem hmem
    obtain ⟨name, more, rfl, rfl, rfl⟩ := Utf8.exists_of_ofChars_eq (by decide) hsplit
    rw [hsplit, reference_of_closed hnames hfront] at h
    obtain ⟨rfl, rfl⟩ := Prod.mk.inj (Option.some.inj h)
    refine ⟨'<' :: name ++ ['>'], more, by simp, length_ofChars_name name,
      .named hnames ?_ (capturedAs_iff.2 rfl)⟩
    exact fun hname => hfront ((Utf8.mem_ofChars_iff (by decide)).2 hname)
  · rw [reference_of_unclosed (by tauto)] at h
    cases h

theorem readsReference_of_reference (h : reference c (Utf8.ofChars cs) = some (text, used)) :
    ReadsReference c cs text used := by
  cases hbytes : Utf8.ofChars cs with
  | nil =>
    rw [hbytes] at h
    cases h
  | cons b bytes =>
    rw [hbytes] at h
    by_cases hname : b = '<'.toUInt8
    · subst hname
      exact readsReference_of_name hbytes h
    · cases hdigit : digitValue? b with
      | some number =>
        obtain ⟨hnumber, rfl⟩ := digitValue?_eq_some_iff.1 hdigit
        rw [reference_of_digit hdigit] at h
        exact readsReference_of_digit hnumber hbytes h
      | none =>
        -- Neither a name nor a number: only the marks of one byte are left.
        rw [reference, if_neg hname, hdigit] at h
        split_ifs at h with h₁ h₂ h₃ h₄ <;> obtain ⟨rfl, rfl⟩ := Prod.mk.inj (Option.some.inj h)
        · exact readsReference_of_mark (by decide) (h₁ ▸ hbytes) (fun _ => .dollar)
        · exact readsReference_of_mark (by decide) (h₂ ▸ hbytes) (fun _ => .whole)
        · exact readsReference_of_mark (by decide) (h₃ ▸ hbytes) (fun _ => .before)
        · exact readsReference_of_mark (by decide) (h₄ ▸ hbytes) (fun _ => .after)

/-- A reference is read as what it refers to. -/
theorem reference_of_refers {ref rest : List Char} (h : Refers c ref rest text) :
    reference c (Utf8.ofChars (ref ++ rest)) = some (text, (Utf8.ofChars ref).length) := by
  cases h with
  | dollar | whole | before | after => rfl
  | @twoDigits tens ones _ _ htens hones h =>
    obtain ⟨hgroup, rfl⟩ := captured_iff.1 h
    rw [List.cons_append, Utf8.ofChars_cons_ascii (digitChar_lt tens htens),
      reference_of_digit (digitValue?_eq_some_iff.2 ⟨htens, rfl⟩),
      length_ofChars_digits htens hones]
    exact numberedReference_of_long hones hgroup rest
  | @oneDigit number _ _ hnumber h hlonger =>
    obtain ⟨hgroup, rfl⟩ := captured_iff.1 h
    have hshort : ∀ ones < 10, ∀ more, rest = ones.digitChar :: more →
        c.hasGroup (number * 10 + ones) = false := by
      intro ones hones more hrest
      rw [Bool.eq_false_iff]
      exact fun hlong => hlonger ones hones more hrest (hasGroup_iff.1 hlong)
    rw [List.cons_append, Utf8.ofChars_cons_ascii (digitChar_lt number hnumber),
      reference_of_digit (digitValue?_eq_some_iff.2 ⟨hnumber, rfl⟩), List.nil_append,
      numberedReference_of_short hshort, hgroup, if_pos rfl, length_ofChars_digit hnumber]
  | @named name _ _ hnames hname h =>
    have hfront : '>'.toUInt8 ∉ Utf8.ofChars name :=
      fun hmem => hname ((Utf8.mem_ofChars_iff (by decide)).1 hmem)
    have hbytes : Utf8.ofChars ('<' :: name ++ ['>'] ++ rest)
        = '<'.toUInt8 :: (Utf8.ofChars name ++ '>'.toUInt8 :: Utf8.ofChars rest) := by
      simp only [List.cons_append, List.append_assoc, List.nil_append,
        Utf8.ofChars_cons_ascii (show '<'.toNat < 128 by decide), Utf8.ofChars_append,
        Utf8.ofChars_cons_ascii (show '>'.toNat < 128 by decide)]
    rw [hbytes, length_ofChars_name, reference_of_closed hnames hfront, capturedAs_iff.1 h]

/-- The scanner reads the references and no others, and takes the bytes of their characters. -/
theorem reference_eq_some_iff :
    reference c (Utf8.ofChars cs) = some (text, used) ↔ ReadsReference c cs text used := by
  refine ⟨readsReference_of_reference, ?_⟩
  rintro ⟨ref, rest, rfl, rfl, h⟩
  exact reference_of_refers h

end Reads

/-! ## Expanding a template -/

/-- Bytes without a dollar among them are copied. -/
theorem expandBytes_append {front : List UInt8} (h : '$'.toUInt8 ∉ front) (back : List UInt8) :
    expandBytes c (front ++ back) = front ++ expandBytes c back := by
  induction front with
  | nil => rfl
  | cons b front ih =>
    rw [List.cons_append, expandBytes, if_neg (List.ne_of_not_mem_cons h).symm,
      ih (List.not_mem_of_not_mem_cons h), List.cons_append]

theorem expandBytes_of_reference {rest : List UInt8} {text : List Char} {used : Nat}
    (h : reference c rest = some (text, used)) : expandBytes c ('$'.toUInt8 :: rest)
      = Utf8.ofChars text ++ expandBytes c (rest.drop used) := by
  rw [expandBytes, if_pos rfl, h]

theorem expandBytes_of_none {rest : List UInt8} (h : reference c rest = none) :
    expandBytes c ('$'.toUInt8 :: rest) = '$'.toUInt8 :: expandBytes c rest := by
  rw [expandBytes, if_pos rfl, h]

theorem dollar_lt : '$'.toNat < 128 := by decide

/-- The bytes of a template become those of the text that it stands for. -/
theorem expandBytes_of_substitutes {template text : List Char} (h : Substitutes c template text) :
    expandBytes c (Utf8.ofChars template) = Utf8.ofChars text := by
  induction h with
  | nil => rw [Utf8.ofChars_nil, expandBytes]
  | @plain d rest text hd h ih =>
    have hfront : '$'.toUInt8 ∉ String.utf8EncodeChar d :=
      fun hmem => hd (Utf8.toUInt8_mem_utf8EncodeChar dollar_lt hmem)
    rw [Utf8.ofChars_cons, expandBytes_append hfront, ih, Utf8.ofChars_cons]
  | @reference ref rest text more href h ih =>
    rw [List.cons_append, Utf8.ofChars_cons_ascii dollar_lt,
      expandBytes_of_reference (reference_of_refers href), Utf8.ofChars_append, List.drop_left,
      ih, Utf8.ofChars_append]
  | @literal rest text hnone h ih =>
    have hnothing : reference c (Utf8.ofChars rest) = none := by
      rw [Option.eq_none_iff_forall_ne_some]
      rintro ⟨referred, used⟩ hread
      obtain ⟨ref, back, hrest, -, href⟩ := reference_eq_some_iff.1 hread
      exact hnone ref back referred hrest href
    rw [Utf8.ofChars_cons_ascii dollar_lt, expandBytes_of_none hnothing, ih,
      Utf8.ofChars_cons_ascii dollar_lt]

/-- Every template stands for a text. -/
theorem exists_substitutes (c : Context) (template : List Char) :
    ∃ text, Substitutes c template text := by
  -- On the length, since what follows a reference is not the tail of the template.
  induction hlength : template.length using Nat.strongRecOn generalizing template with
  | ind n ih =>
    subst hlength
    cases template with
    | nil => exact ⟨[], .nil⟩
    | cons d rest =>
      by_cases hd : d = '$'
      · subst hd
        by_cases href : ∃ ref back referred, rest = ref ++ back ∧ Refers c ref back referred
        · obtain ⟨ref, back, referred, rfl, href⟩ := href
          have hlt : back.length < ('$' :: (ref ++ back)).length := by
            simp only [List.length_cons, List.length_append]
            omega
          obtain ⟨more, hmore⟩ := ih _ hlt back rfl
          exact ⟨referred ++ more, .reference href hmore⟩
        · obtain ⟨text, htext⟩ := ih _ (Nat.lt_succ_self _) rest rfl
          refine ⟨'$' :: text, .literal ?_ htext⟩
          intro ref back referred hrest hrefers
          exact href ⟨ref, back, referred, hrest, hrefers⟩
      · obtain ⟨text, htext⟩ := ih _ (Nat.lt_succ_self _) rest rfl
        exact ⟨d :: text, .plain hd htext⟩

/-- A template is expanded to the text that it stands for. -/
theorem expand_of_substitutes {template : String} {text : List Char}
    (h : Substitutes c template.toList text) : expand c template = String.ofList text := by
  rw [expand, expandBytes_of_substitutes h, Utf8.fromUTF8?_ofChars]
  rfl

/-- Every template is expanded, to one text, and this is what it means: each reference is
replaced by the text that it refers to, and every other character is copied, a dollar without
a reference too.  The scanner works on bytes, but what it takes as a reference is a reference
in characters, and what it leaves in the end is the bytes of a text: no character is cut. -/
theorem substitutes_expand (c : Context) (template result : String) :
    (expand c template = result ↔ Substitutes c template.toList result.toList) ∧
    expandBytes c (Utf8.ofChars template.toList) = Utf8.ofChars (expand c template).toList ∧
    ∀ cs text used, reference c (Utf8.ofChars cs) = some (text, used) ↔
      ReadsReference c cs text used := by
  obtain ⟨text, htext⟩ := exists_substitutes c template.toList
  have hexpand : expand c template = String.ofList text := expand_of_substitutes htext
  refine ⟨⟨?_, ?_⟩, ?_, fun _ _ _ => reference_eq_some_iff⟩
  · rintro rfl
    rw [hexpand, String.toList_ofList]
    exact htext
  · intro h
    rw [expand_of_substitutes h, String.ofList_toList]
  · rw [expandBytes_of_substitutes htext, hexpand, String.toList_ofList]

end EditWaves.Pattern
