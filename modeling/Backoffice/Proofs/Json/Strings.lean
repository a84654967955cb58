import Backoffice.Json.Lexeme
import Backoffice.Json.Printer
import Backoffice.Proofs.Text.Loop
import Mathlib.Tactic.SplitIfs

/-!
# JSON strings read back

A character is written as itself, behind a backslash or by its number, and each of these is
read as the character; so a string is read back character by character, whatever follows its
closing quote.

* `stringStep_escapedChar`: one character is read back;
* `stringBody_flatMap`: a string is read back.
-/

namespace Backoffice

theorem Text.length_le_octets (t : Text) : t.length ≤ Text.octets t := by
  induction t with
  | nil => exact Nat.le_refl _
  | cons c t ih =>
    have hc := c.utf8Size_pos
    rw [Text.octets, List.length_cons]
    omega

namespace Json

variable {c : Char} {s cs rest : Text}

/-! ### One character -/

/-- Four hexadecimal digits with zeros before them are the number of a control character. -/
theorem hexFrom?_control {n : Nat} (hn : n < 0x20) :
    (Text.padStart 4 '0' (Nat.toDigits 16 n)).length = 4 ∧
      Numeral.hexFrom? 0 (Text.padStart 4 '0' (Nat.toDigits 16 n)) = some n := by
  have hall : ∀ n < 0x20, (Text.padStart 4 '0' (Nat.toDigits 16 n)).length = 4 ∧
      Numeral.hexFrom? 0 (Text.padStart 4 '0' (Nat.toDigits 16 n)) = some n := by
    decide
  exact hall n hn

theorem hexFour_append {ds : Text} {n : Nat} (hl : ds.length = 4)
    (hn : Numeral.hexFrom? 0 ds = some n) : hexFour (ds ++ rest) = .ok (n, rest) := by
  have ho : ¬ Text.octets (ds ++ rest) < 4 := by
    have := Text.length_le_octets (ds ++ rest)
    rw [List.length_append] at this
    omega
  rw [hexFour, if_neg ho]
  match ds, hl with
  | [a, b, c, d], _ => simp [hn]

/-- The number of a control character is no half of a pair. -/
theorem escape_control (hc : c.toNat < 0x20) :
    escape ('u' :: (Text.padStart 4 '0' (Nat.toDigits 16 c.toNat) ++ rest)) = .ok (c, rest) := by
  obtain ⟨hl, hn⟩ := hexFrom?_control hc
  have hu : unicodeEscape (Text.padStart 4 '0' (Nat.toDigits 16 c.toNat) ++ rest) =
      .ok (c, rest) := by
    rw [unicodeEscape, hexFour_append hl hn]
    simp only
    rw [if_neg (by omega), if_neg (by omega), Char.ofNat_toNat]
  exact hu

/-- A character is read as it was written, whatever follows. -/
theorem stringStep_escapedChar (c : Char) (rest : Text) :
    stringStep (escapedChar c ++ rest) = .ok (.item c rest) := by
  rw [escapedChar]
  split_ifs with hq hs hb hf hn hr ht hc
  -- Seven characters have an escape of their own, the other controls one by their number.
  · rw [hq]; rfl
  · rw [hs]; rfl
  · rw [hb]; rfl
  · rw [hf]; rfl
  · rw [hn]; rfl
  · rw [hr]; rfl
  · rw [ht]; rfl
  · have he : escape ('u' :: (Text.padStart 4 '0' (Nat.toDigits 16 c.toNat) ++ rest)) =
        .ok (c, rest) := escape_control hc
    simp [stringStep, he]
  · simp [stringStep, hq, hs, hc]

theorem escapedChar_ne_nil (c : Char) : escapedChar c ≠ [] := by
  rw [escapedChar]
  split_ifs <;> simp

/-! ### Strings -/

/-- What is written of a string is read up to its closing quote. -/
theorem stringBody_flatMap (s rest : Text) :
    stringBody (s.flatMap escapedChar ++ '"' :: rest) = .ok (s, rest) := by
  have hi : ∀ c ∈ s, ∀ mid, stringStep (escapedChar c ++ mid) = .ok (.item (id c) mid) :=
    fun c _ => stringStep_escapedChar c
  have hd : stringStep ('"' :: rest) = .ok (.done rest) := rfl
  rw [stringBody]
  simpa using Text.collectAll_flatMap (⟨.stringEnded, 0⟩ : Fault)
    (fun c _ => escapedChar_ne_nil c) hi hd

theorem quote_append (s rest : Text) :
    quote s ++ rest = '"' :: (s.flatMap escapedChar ++ '"' :: rest) := by
  simp [quote]

end Json

end Backoffice
