/-!
# Reading bytes as UTF-8

`decode?` reads a list of bytes as UTF-8 and refuses anything else; `decodeLossy`
puts a replacement character in place of each longest invalid piece; `fault?` tells
where the first such piece is.  All follow the table of well-formed byte sequences:
no overlong forms, no surrogates, nothing above the largest code point.
-/

namespace EditWaves.Text.Utf8

/-- The replacement character. -/
def replacement : Char := Char.ofNat 0xFFFD

/-- What one reading step finds at the front of a list of bytes: a character and
how many bytes it takes, or the length of an invalid piece, which may be invalid
only because the bytes end in it. -/
inductive Step where
  | char (c : Char) (size : Nat)
  | invalid (size : Nat)
  | cut (size : Nat)

/-- Whether a byte continues a sequence. -/
def isContinuation (b : UInt8) : Bool := 0x80 ≤ b && b ≤ 0xBF

/-- The payload of a continuation byte. -/
def payload (b : UInt8) : Nat := b.toNat % 64

/-- Reads three bytes whose second must lie between `lo` and `hi`. -/
def stepThree (b0 : UInt8) (rest : List UInt8) (lo hi : UInt8) : Step :=
  match rest with
  | b1 :: more =>
    if lo ≤ b1 && b1 ≤ hi then
      match more with
      | b2 :: _ =>
        if isContinuation b2 then
          .char (Char.ofNat (b0.toNat % 16 * 4096 + payload b1 * 64 + payload b2)) 3
        else .invalid 2
      | [] => .cut 2
    else .invalid 1
  | [] => .cut 1

/-- Reads four bytes whose second must lie between `lo` and `hi`. -/
def stepFour (b0 : UInt8) (rest : List UInt8) (lo hi : UInt8) : Step :=
  match rest with
  | b1 :: more =>
    if lo ≤ b1 && b1 ≤ hi then
      match more with
      | b2 :: last =>
        if isContinuation b2 then
          match last with
          | b3 :: _ =>
            if isContinuation b3 then
              .char (Char.ofNat
                (b0.toNat % 8 * 262144 + payload b1 * 4096 + payload b2 * 64 + payload b3)) 4
            else .invalid 3
          | [] => .cut 3
        else .invalid 2
      | [] => .cut 2
    else .invalid 1
  | [] => .cut 1

/-- Reads what stands at the front of `b0 :: rest`. -/
def step (b0 : UInt8) (rest : List UInt8) : Step :=
  if b0 < 0x80 then .char (Char.ofNat b0.toNat) 1
  else if b0 < 0xC2 then .invalid 1
  else if b0 < 0xE0 then
    match rest with
    | b1 :: _ =>
      if isContinuation b1 then .char (Char.ofNat (b0.toNat % 32 * 64 + payload b1)) 2
      else .invalid 1
    | [] => .cut 1
  else if b0 == 0xE0 then stepThree b0 rest 0xA0 0xBF
  else if b0 == 0xED then stepThree b0 rest 0x80 0x9F
  else if b0 < 0xF0 then stepThree b0 rest 0x80 0xBF
  else if b0 == 0xF0 then stepFour b0 rest 0x90 0xBF
  else if b0 < 0xF4 then stepFour b0 rest 0x80 0xBF
  else if b0 == 0xF4 then stepFour b0 rest 0x80 0x8F
  else .invalid 1

/-- The characters of a list of bytes; `none` stands for an invalid piece. -/
def pieces : List UInt8 → List (Option Char)
  | [] => []
  | b :: rest =>
    match step b rest with
    | .char c size => some c :: pieces (rest.drop (size - 1))
    | .invalid size | .cut size => none :: pieces (rest.drop (size - 1))
termination_by bytes => bytes.length
decreasing_by all_goals (simp only [List.length_drop, List.length_cons]; omega)

/-- The text of a list of bytes, if they are UTF-8. -/
def decode? (bytes : List UInt8) : Option String :=
  ((pieces bytes).mapM id).map String.ofList

/-- The text of a list of bytes with replacement characters for invalid pieces. -/
def decodeLossy (bytes : List UInt8) : String :=
  String.ofList ((pieces bytes).map (·.getD replacement))

/-- Where bytes stop being UTF-8. -/
structure Fault where
  index : Nat
  size : Nat
  /-- Whether the bytes end there. -/
  cut : Bool
deriving Repr, BEq, DecidableEq, Inhabited

/-- The wording of a fault. -/
def Fault.message (f : Fault) : String :=
  if f.cut then s!"incomplete utf-8 byte sequence from index {f.index}"
  else s!"invalid utf-8 sequence of {f.size} bytes from index {f.index}"

/-- The first fault of bytes that start at an index. -/
def faultFrom (index : Nat) : List UInt8 → Option Fault
  | [] => none
  | b :: rest =>
    match step b rest with
    | .char _ size => faultFrom (index + size) (rest.drop (size - 1))
    | .invalid size => some ⟨index, size, false⟩
    | .cut size => some ⟨index, size, true⟩
termination_by bytes => bytes.length
decreasing_by simp only [List.length_drop, List.length_cons]; omega

/-- The first place at which bytes are not UTF-8. -/
def fault? (bytes : List UInt8) : Option Fault := faultFrom 0 bytes

/-- The bytes of characters. -/
def ofChars (cs : List Char) : List UInt8 := cs.flatMap String.utf8EncodeChar

/-- The bytes of a text. -/
def encode (s : String) : List UInt8 := s.toUTF8.toList

end EditWaves.Text.Utf8
