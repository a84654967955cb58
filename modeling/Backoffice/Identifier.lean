import Backoffice.Text.Basic

/-!
# Identifiers

Camel case is rewritten to snake case word by word. A word begins at an ASCII
capital and goes on over small letters and digits, so every capital begins a
word of its own and an abbreviation is split letter by letter. Each word is made
small and put behind an underscore; the one before a word that begins the
identifier is left out.
-/

namespace Backoffice.Identifier

/-- Whether a character goes on with a word. -/
def continuesWord (c : Char) : Bool :=
  c.isLower || c.isDigit

/-- The identifier with every word made small behind an underscore. -/
def marked : Text → Text
  | [] => []
  | c :: cs =>
    if c.isUpper then
      '_' :: Text.lowered (c :: cs.takeWhile continuesWord) ++ marked (cs.dropWhile continuesWord)
    else c :: marked cs
  termination_by t => t.length
  decreasing_by
    all_goals
      have := (List.dropWhile_sublist (l := cs) continuesWord).length_le
      simp only [List.length_cons]
      omega

/-- Whether the identifier begins with a capital. -/
def beginsCapital (t : Text) : Bool :=
  t.head?.any Char.isUpper

/-- The identifier in snake case, without the underscore that was put before a first capital. -/
def snakeCase (t : Text) : Text :=
  if beginsCapital t then (Text.after? "_" (marked t)).getD (marked t) else marked t

end Backoffice.Identifier
