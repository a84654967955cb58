import Backoffice.Text.Basic

/-!
# Blank characters

A character is *blank* if it has the Unicode property White_Space: twenty-five
code points, of which only six are ASCII. Texts are trimmed of blanks at their
ends, never inside.
-/

namespace Backoffice.Text

/-- The ranges of the Unicode property White_Space, each with its last member. -/
def blankRanges : List (Nat × Nat) :=
  [(0x09, 0x0D), (0x20, 0x20), (0x85, 0x85), (0xA0, 0xA0), (0x1680, 0x1680), (0x2000, 0x200A),
   (0x2028, 0x2029), (0x202F, 0x202F), (0x205F, 0x205F), (0x3000, 0x3000)]

/-- Whether the character is white space in Unicode's sense. -/
def isBlank (c : Char) : Bool :=
  blankRanges.any fun r => r.1 ≤ c.toNat && c.toNat ≤ r.2

/-- The text without the blanks it begins with. -/
def trimStart (t : Text) : Text :=
  t.dropWhile isBlank

/-- The text without the blanks it ends with. -/
def trimEnd (t : Text) : Text :=
  (t.reverse.dropWhile isBlank).reverse

/-- The text without the blanks at its ends. -/
def trim (t : Text) : Text :=
  trimEnd (trimStart t)

end Backoffice.Text
