/-!
# Text

A *text* is the list of its Unicode scalar values. Everything that reads,
rewrites or prints goes through texts, so that it can be followed character by
character; strings appear only as literals and at the edge of the program.

* `Text.octets`: the length of a text in UTF-8;
* `Text.pieces`: the text cut at every occurrence of a character, and
  `Text.joined`, which puts the pieces back together (`Text.joined_pieces`);
* `Text.afterLast`: the cut at the last occurrence of a character.
-/

namespace Backoffice

/-- A text is a list of Unicode scalar values. -/
abbrev Text := List Char

/-- A string literal is read as a text where a text is wanted. -/
instance : Coe String Text := ⟨String.toList⟩

namespace Text

/-- The number of octets of a text in UTF-8. -/
def octets : Text → Nat
  | [] => 0
  | c :: cs => c.utf8Size + octets cs

/-- The text cut at every `sep`, which is itself dropped: one piece more than
    there are separators, and at least one. -/
def pieces (sep : Char) : Text → List Text
  | [] => [[]]
  | c :: cs =>
    if c = sep then [] :: pieces sep cs
    else
      match pieces sep cs with
      | [] => [[c]]
      | p :: ps => (c :: p) :: ps

/-- The pieces one after the other, with `sep` between neighbours. -/
def joined (sep : Text) : List Text → Text
  | [] => []
  | [p] => p
  | p :: q :: ps => p ++ sep ++ joined sep (q :: ps)

theorem pieces_ne_nil (sep : Char) (t : Text) : pieces sep t ≠ [] := by
  cases t with
  | nil => simp [pieces]
  | cons c cs =>
    rw [pieces]
    split
    · simp
    · split <;> simp

/-- Cutting and joining again loses nothing. -/
theorem joined_pieces (sep : Char) (t : Text) : joined [sep] (pieces sep t) = t := by
  induction t with
  | nil => rfl
  | cons c cs ih =>
    rw [pieces]
    split
    · next h =>
      subst h
      cases hp : pieces c cs with
      | nil => exact absurd hp (pieces_ne_nil c cs)
      | cons p ps =>
        rw [hp] at ih
        simp [joined, ih]
    · cases hp : pieces sep cs with
      | nil => exact absurd hp (pieces_ne_nil sep cs)
      | cons p ps =>
        rw [hp] at ih
        cases ps with
        | nil => simpa [joined] using ih
        | cons q qs => simpa [joined] using ih

/-- The text before and after the last `sep`, if there is one. -/
def afterLast (sep : Char) : Text → Option (Text × Text)
  | [] => none
  | c :: cs =>
    match afterLast sep cs with
    | some (before, after) => some (c :: before, after)
    | none => if c = sep then some ([], cs) else none

/-- The text after a beginning, if it begins so. -/
def after? : Text → Text → Option Text
  | [], t => some t
  | _ :: _, [] => none
  | b :: bs, c :: cs => if b = c then after? bs cs else none

/-- The text with `fill` put before it until it has `width` characters. -/
def padStart (width : Nat) (fill : Char) (t : Text) : Text :=
  List.replicate (width - t.length) fill ++ t

/-- The text with `fill` put after it until it has `width` characters. -/
def padEnd (width : Nat) (fill : Char) (t : Text) : Text :=
  t ++ List.replicate (width - t.length) fill

/-- The text with its ASCII capitals made small. -/
def lowered (t : Text) : Text :=
  t.map Char.toLower

end Text

end Backoffice
