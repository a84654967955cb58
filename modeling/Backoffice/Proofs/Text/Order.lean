import Backoffice.Text.Utf8
import Mathlib.Data.Char
import Mathlib.Data.List.Lex

/-!
# The order of texts

Texts are compared like words in a dictionary: by the first place where they differ, and if there
is none the shorter comes first. It is the same whether their characters are compared or the
octets in which they are stored, since in UTF-8 a greater character differs from a smaller one in
a greater octet.

* `octetList_lt_iff`: texts are in the order of their octets;
* `append_lt_append_iff`: the order of texts whose beginnings are equally long.
-/

namespace Backoffice.Text

variable {c d : Char} {t u v w : Text}

/-! ### Characters and octets -/

/-- The octets of a text in UTF-8, one after the other. -/
def octetList (t : Text) : List UInt8 :=
  (toOctets t).data.toList

@[simp]
theorem octetList_nil : octetList [] = [] := by
  rw [octetList, toOctets_eq, List.utf8Encode_nil]
  rfl

@[simp]
theorem octetList_cons (c : Char) (t : Text) :
    octetList (c :: t) = String.utf8EncodeChar c ++ octetList t := by
  rw [octetList, toOctets_eq, List.utf8Encode_cons, ByteArray.data_append, Array.toList_append,
    octetList, toOctets_eq, List.utf8Encode_singleton]
  simp

/-- A smaller character comes first in UTF-8, whatever follows. -/
theorem utf8EncodeChar_append_lt (h : c < d) (bs bs' : List UInt8) :
    String.utf8EncodeChar c ++ bs < String.utf8EncodeChar d ++ bs' := by
  have hlt : c.val.toNat < d.val.toNat := h
  have hmax (c : Char) : c.val.toNat < 1114112 := by rcases c.valid with h | ⟨-, h⟩ <;> omega
  have hc := hmax c
  have hd := hmax d
  -- By the numbers of octets of both; the octets of a character are its digits to base 64.
  unfold String.utf8EncodeChar
  dsimp only
  split_ifs <;>
    simp only [List.cons_append, List.nil_append, List.cons_lt_cons_iff, UInt8.lt_iff_toNat_lt,
      ← UInt8.toNat_inj, UInt8.toNat_ofNat'] <;>
    simp (disch := omega) only [Nat.mod_eq_of_lt] <;>
    omega

/-- A common beginning makes no difference. -/
theorem append_left_lt_iff {α : Type} [LT α] [Std.Irrefl (α := α) (· < ·)] (ps qs rs : List α) :
    ps ++ qs < ps ++ rs ↔ qs < rs := by
  induction ps with
  | nil => rfl
  | cons p ps ih => rw [List.cons_append, List.cons_append, List.cons_lt_cons_self, ih]

/-- Texts are in the order of their octets. -/
theorem octetList_lt_iff : octetList t < octetList u ↔ t < u := by
  induction t generalizing u with
  | nil =>
    cases u with
    | nil => simp
    | cons d u =>
      obtain ⟨b, bs, hb⟩ := List.exists_cons_of_ne_nil (String.utf8EncodeChar_ne_nil (c := d))
      simp [hb]
  | cons c t ih =>
    cases u with
    | nil => simp
    | cons d u =>
      rw [octetList_cons, octetList_cons, List.cons_lt_cons_iff]
      rcases lt_trichotomy c d with h | rfl | h
      · exact iff_of_true (utf8EncodeChar_append_lt h _ _) (.inl h)
      · rw [append_left_lt_iff, ih]
        simp
      · refine iff_of_false (List.lt_asymm (utf8EncodeChar_append_lt h _ _)) ?_
        rintro (hlt | ⟨rfl, -⟩)
        · exact lt_asymm h hlt
        · exact lt_irrefl _ h

/-! ### Texts in two parts -/

/-- Of two texts with equally long beginnings, the beginnings decide unless they are the same. -/
theorem append_lt_append_iff (h : t.length = u.length) :
    t ++ v < u ++ w ↔ t < u ∨ t = u ∧ v < w := by
  induction t generalizing u with
  | nil =>
    obtain rfl := List.length_eq_zero_iff.1 h.symm
    simp
  | cons c t ih =>
    cases u with
    | nil => cases h
    | cons d u =>
      rw [List.cons_append, List.cons_append, List.cons_lt_cons_iff, List.cons_lt_cons_iff,
        ih (Nat.succ.inj h), List.cons.injEq]
      tauto

end Backoffice.Text
