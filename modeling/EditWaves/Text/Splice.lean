/-!
# Splicing text by character offsets

Offsets count characters (Unicode scalar values) from the start of a text; a text
is stored as UTF-8 bytes.  `byteIndex` turns an offset into the byte where that
character starts, and `splice` cuts the text at two such bytes.  An offset past
the end stands for the end, and an end before the begin stands for the begin, so
splicing is defined for every pair of offsets.
-/

namespace EditWaves.Text

/-- The characters of a text in `[start, stop)`. -/
def slice (text : List Char) (start stop : Nat) : List Char := (text.drop start).take (stop - start)

/-- The byte at which the character number `offset` starts; the length in bytes
when the text has no such character. -/
def byteIndex (s : String) (offset : Nat) : Nat :=
  (s.toList.take offset).foldr (fun c n => c.utf8Size + n) 0

/-- The text between two byte positions. -/
def bytesBetween (s : String) (start stop : Nat) : String :=
  String.Pos.Raw.extract s ⟨start⟩ ⟨stop⟩

/-- Replaces the characters in `[start, stop)` by `insertion`. -/
def splice (s : String) (start stop : Nat) (insertion : String) : String :=
  let cut := byteIndex s start
  let resume := max (byteIndex s stop) cut
  bytesBetween s 0 cut ++ insertion ++ bytesBetween s resume s.utf8ByteSize

end EditWaves.Text
