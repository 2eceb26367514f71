import ConsumerGroup.Text.Printable

/-!
# Quoted text

A text between double quotes, written so that every character of it can
be told apart: the quote and the backslash get a backslash, the four
common controls get a letter, and whatever has no shape of its own is
written by its number in braces.
-/

namespace ConsumerGroup.Text

/-- The hexadecimal digits of a number, in small letters, without leading
zeros. -/
def hex (n : Nat) : String := String.ofList (Nat.toDigits 16 n)

/-- One character inside the quotes. -/
def quotedChar (c : Char) : String :=
  if c = '\x00' then "\\0"
  else if c = '\t' then "\\t"
  else if c = '\r' then "\\r"
  else if c = '\n' then "\\n"
  else if c = '"' then "\\\""
  else if c = '\\' then "\\\\"
  else if isPrintable c then c.toString
  else "\\u\x7b" ++ hex c.toNat ++ "\x7d"

/-- The text between double quotes. -/
def quoted (s : String) : String :=
  "\"" ++ String.join (s.toList.map quotedChar) ++ "\""

/-- A list of quoted texts in brackets. -/
def quotedList (l : List String) : String :=
  "[" ++ ", ".intercalate (l.map quoted) ++ "]"

end ConsumerGroup.Text
