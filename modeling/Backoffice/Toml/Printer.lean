import Backoffice.Text.Numeral

/-!
# Printing TOML

A string is written in the first form that can hold it as it is: between double
quotes, between single quotes, and between three of either, where line ends stay as
they are. If none can, double quotes with escapes are taken, three if it has a line
end. A list of strings is written on one line.
-/

namespace Backoffice.Toml

/-- Whether a character is a control that a string cannot hold as it is, wherever it
    stands. -/
def isControl (c : Char) : Bool :=
  (c.toNat < 0x20 && c ≠ '\t' && c ≠ '\n') || c.toNat = 0x7F

/-- The length of the longest row of a character, of which `here` came just before. -/
def longestRun (c : Char) (here : Nat) : Text → Nat
  | [] => here
  | d :: ds => if d = c then longestRun c (here + 1) ds else max here (longestRun c 0 ds)

/-- The forms of a string. -/
inductive Form where
  | basic
  | literal
  | wideBasic
  | wideLiteral
  deriving DecidableEq, Repr

/-- The form that a string is written in. -/
def formOf (s : Text) : Form :=
  let plain := !s.any isControl
  let oneLine := !s.contains '\n'
  let noBackslash := !s.contains '\\'
  if plain && oneLine && noBackslash && !s.contains '"' then .basic
  else if plain && oneLine && !s.contains '\'' then .literal
  else if plain && noBackslash && longestRun '"' 0 s ≤ 2 then .wideBasic
  else if plain && longestRun '\'' 0 s ≤ 2 then .wideLiteral
  else if oneLine then .basic
  else .wideBasic

/-- The escape of a character that cannot stand for itself between double quotes,
    quotes and line ends apart. -/
def escaped? (c : Char) : Option Text :=
  if c = '\x08' then some "\\b"
  else if c = '\t' then some "\\t"
  else if c = '\x0c' then some "\\f"
  else if c = '\r' then some "\\r"
  else if c = '\\' then some "\\\\"
  else if c ≠ '\n' && isControl c then
    some ("\\u" ++ Text.padStart 4 '0' ((Nat.toDigits 16 c.toNat).map Char.toUpper))
  else none

/-- One character between double quotes on one line. -/
def basicChar (c : Char) : Text :=
  if c = '"' then "\\\""
  else if c = '\n' then "\\n"
  else (escaped? c).getD [c]

/-- The characters between three double quotes. Every third quote in a row is
    escaped; `quotes` came just before. -/
def wideBasicChars (quotes : Nat) : Text → Text
  | [] => []
  | c :: cs =>
    if c = '"' then
      if quotes = 2 then "\\\"" ++ wideBasicChars 0 cs else c :: wideBasicChars (quotes + 1) cs
    else (escaped? c).getD [c] ++ wideBasicChars 0 cs

/-- What stands after three opening quotes: a line end if the string has one. -/
def opening (s : Text) : Text :=
  if s.contains '\n' then "\n" else ""

/-- A string. -/
def quote (s : Text) : Text :=
  match formOf s with
  | .basic => '"' :: s.flatMap basicChar ++ "\""
  | .literal => '\'' :: s ++ "'"
  | .wideBasic => "\"\"\"" ++ opening s ++ wideBasicChars 0 s ++ "\"\"\""
  | .wideLiteral => "'''" ++ opening s ++ s ++ "'''"

/-- A list of strings. -/
def quoteAll (ss : List Text) : Text :=
  '[' :: Text.joined ", " (ss.map quote) ++ "]"

/-- The line of a key without quotes and a value. -/
def keyLine (key value : Text) : Text :=
  key ++ " = " ++ value ++ "\n"

end Backoffice.Toml
