import EditWaves.Text.CharSet
import EditWaves.Text.Hex
import EditWaves.Text.Unprintable

/-!
# Quoted texts in messages

Messages show names and commands in double quotes.  A quote, a backslash, a tab, a
line end and the null character have short escapes; other characters that cannot
be seen on their own are shown by their number, as in `\u{200b}`.
-/

namespace EditWaves.Text

/-- The characters that are shown by their number. -/
def unprintable : CharSet := CharSet.ofGaps unprintableGaps

/-- One character inside a quoted text. -/
def quoteChar (c : Char) : String :=
  if c = '"' then "\\\""
  else if c = '\\' then "\\\\"
  else if c = '\n' then "\\n"
  else if c = '\r' then "\\r"
  else if c = '\t' then "\\t"
  else if c.toNat = 0 then "\\0"
  else if c.toNat < 0x7F && 0x20 ≤ c.toNat then c.toString
  else if unprintable.contains c then "\\u\x7b" ++ hex c.toNat ++ "\x7d"
  else c.toString

/-- A text in quotes. -/
def quoted (s : String) : String :=
  "\"" ++ String.join (s.toList.map quoteChar) ++ "\""

/-- A list of texts, each in quotes. -/
def quotedList (l : List String) : String :=
  "[" ++ ", ".intercalate (l.map quoted) ++ "]"

end EditWaves.Text
