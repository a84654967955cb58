import Backoffice.Json.Basic

/-!
# Printing JSON

The compact form has no blanks at all; the wide form puts every item and field
on a line of its own, two spaces deeper than what it belongs to. A string escapes
quotes, backslashes and control characters and nothing else.
-/

namespace Backoffice.Json

/-- One character as it stands in a JSON string. -/
def escapedChar (c : Char) : Text :=
  if c = '"' then "\\\""
  else if c = '\\' then "\\\\"
  else if c = '\x08' then "\\b"
  else if c = '\x0c' then "\\f"
  else if c = '\n' then "\\n"
  else if c = '\r' then "\\r"
  else if c = '\t' then "\\t"
  else if c.toNat < 0x20 then "\\u" ++ Text.padStart 4 '0' (Nat.toDigits 16 c.toNat)
  else [c]

/-- A text as a JSON string. -/
def quote (s : Text) : Text :=
  '"' :: s.flatMap escapedChar ++ "\""

/-- A number: an integer in full, a binary number in its fewest digits. -/
def Number.toText : Number → Text
  | .integer n => Numeral.whole n
  | .float x => Decimal.Layout.data.render x

mutual

/-- A value without blanks. -/
def compact : Json → Text
  | .null => "null"
  | .bool b => if b then "true" else "false"
  | .number n => n.toText
  | .string s => quote s
  | .array items => '[' :: Text.joined "," (compactItems items) ++ "]"
  | .object fields => '{' :: Text.joined "," (compactFields fields) ++ "\x7d"

/-- Each item without blanks. -/
def compactItems : List Json → List Text
  | [] => []
  | x :: xs => compact x :: compactItems xs

/-- Each field without blanks. -/
def compactFields : List (Text × Json) → List Text
  | [] => []
  | (k, x) :: xs => (quote k ++ ':' :: compact x) :: compactFields xs

end

/-- Lines between brackets, each indented by `depth + 1` steps; nothing at all
    between the brackets if there are no lines. -/
def bracketed (depth : Nat) (opening closing : Char) (lines : List Text) : Text :=
  let indent (n : Nat) : Text := '\n' :: List.replicate (2 * n) ' '
  if lines.isEmpty then [opening, closing]
  else opening :: indent (depth + 1) ++ Text.joined (',' :: indent (depth + 1)) lines ++
    indent depth ++ [closing]

mutual

/-- A value over several lines, itself `depth` steps deep. -/
def wideAt (depth : Nat) : Json → Text
  | .null => "null"
  | .bool b => if b then "true" else "false"
  | .number n => n.toText
  | .string s => quote s
  | .array items => bracketed depth '[' ']' (wideItems (depth + 1) items)
  | .object fields => bracketed depth '{' '}' (wideFields (depth + 1) fields)

/-- Each item over several lines. -/
def wideItems (depth : Nat) : List Json → List Text
  | [] => []
  | x :: xs => wideAt depth x :: wideItems depth xs

/-- Each field over several lines. -/
def wideFields (depth : Nat) : List (Text × Json) → List Text
  | [] => []
  | (k, x) :: xs => (quote k ++ ": " ++ wideAt depth x) :: wideFields depth xs

end

/-- A value over several lines. -/
def wide (v : Json) : Text :=
  wideAt 0 v

end Backoffice.Json
