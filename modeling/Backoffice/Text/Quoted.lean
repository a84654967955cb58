import Backoffice.Text.Printable

/-!
# Quoted text

How a text is shown in a log line: between double quotes, with a backslash
before quotes and backslashes, short escapes for the common controls, and the
code point in hexadecimal for a character that has no glyph or would be drawn
onto the one before it.
-/

namespace Backoffice.Text

/-- One character as it stands between quotes. -/
def quotedChar (c : Char) : Text :=
  if c = '\x00' then "\\0"
  else if c = '\t' then "\\t"
  else if c = '\r' then "\\r"
  else if c = '\n' then "\\n"
  else if c = '"' then "\\\""
  else if c = '\\' then "\\\\"
  else if isJoining c || !isPrintable c then "\\u\x7b" ++ Nat.toDigits 16 c.toNat ++ "\x7d"
  else [c]

/-- The text between double quotes. -/
def quoted (t : Text) : Text :=
  '"' :: t.flatMap quotedChar ++ "\""

/-- Texts in brackets, each quoted, with a comma between neighbours. -/
def quotedList (ts : List Text) : Text :=
  "[" ++ joined ", " (ts.map quoted) ++ "]"

end Backoffice.Text
