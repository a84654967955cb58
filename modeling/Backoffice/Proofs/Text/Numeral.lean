import Backoffice.Text.Numeral
import Mathlib.Data.Char
import Mathlib.Data.List.Lex
import Mathlib.Tactic.Ring

/-!
# Numerals read back

A number is written without leading zeros, or with as many as fill a width. Texts of so many
digits and numbers of so many digits are then the same thing: each text is how its number is
written in the width of the text.

* `exists_natural_eq`: how a number without leading zeros begins;
* `value_lt_value_iff`: equally many digits are in the order of their numbers;
* `value_padded`: a number with leading zeros is read back;
* `padded_value`: digits are what is written of their number in their width;
* `IsPlain`, `isDecimal_iff`: what is written of a number without leading zeros, and of an integer;
* `size?_eq_ok_iff`: which texts are read as a size.
-/

namespace Backoffice.Numeral

variable {c d : Char} {t u : Text} {n width : Nat}

/-! ### Without leading zeros -/

/-- A number other than zero is written without leading zeros. -/
theorem head?_natural (h : 0 < n) : (natural n).head? ≠ some '0' := by
  -- The first digit of a number is that of a tenth of it, if it has more than one.
  induction n using Nat.strongRecOn with
  | ind n ih =>
    by_cases hn : n < 10
    · have hall : ∀ n < 10, 0 < n → (natural n).head? ≠ some '0' := by decide
      exact hall n hn h
    · unfold natural at ih ⊢
      rw [Nat.toDigits_of_base_le (by decide) (Nat.le_of_not_lt hn),
        List.head?_append, Option.or_of_isSome (by simp [Nat.toDigits_ne_nil])]
      exact ih (n / 10) (by omega) (by omega)

/-- A number is written as digits, the first of which is no zero but that of zero. -/
theorem exists_natural_eq (n : Nat) :
    ∃ d ds, natural n = d :: ds ∧ d.isDigit = true ∧ (0 < n → d ≠ '0') := by
  cases hds : natural n with
  | nil => exact absurd hds (natural_ne_nil n)
  | cons d ds =>
    refine ⟨d, ds, rfl, isDigit_of_mem_natural (hds ▸ List.mem_cons_self), fun hn hd => ?_⟩
    exact head?_natural hn (by rw [hds, hd]; rfl)

theorem ne_of_isDigit (hc : c.isDigit = true) (hd : d.isDigit = false) : c ≠ d :=
  fun h => absurd (h ▸ hc) (by rw [hd]; decide)

/-! ### Digits and their number -/

theorem toNat_of_isDigit (hc : c.isDigit = true) : 48 ≤ c.toNat ∧ c.toNat ≤ 57 := by
  rw [Char.isDigit, Bool.and_eq_true, decide_eq_true_eq, decide_eq_true_eq] at hc
  exact hc

theorem digit_lt (hc : c.isDigit = true) : digit c < 10 := by
  have h := toNat_of_isDigit hc
  rw [digit, show '0'.toNat = 48 from rfl]
  omega

theorem digit_inj (hc : c.isDigit = true) (hd : d.isDigit = true) :
    digit c = digit d ↔ c = d := by
  refine ⟨fun h => Char.toNat_inj.1 ?_, congrArg digit⟩
  have hc := toNat_of_isDigit hc
  have hd := toNat_of_isDigit hd
  rw [digit, digit, show '0'.toNat = 48 from rfl] at h
  omega

theorem digit_lt_digit_iff (hc : c.isDigit = true) (hd : d.isDigit = true) :
    digit c < digit d ↔ c < d := by
  have hc := toNat_of_isDigit hc
  have hd := toNat_of_isDigit hd
  rw [digit, digit, show '0'.toNat = 48 from rfl, show c < d ↔ c.toNat < d.toNat from Iff.rfl]
  omega

/-- The first digit counts as often as its place says. -/
theorem value_cons (c : Char) (t : Text) : value (c :: t) = digit c * 10 ^ t.length + value t := by
  rw [value, Nat.ofDigitChars_cons, Nat.ofDigitChars_eq_ofDigitChars_zero, value, digit]
  ring

theorem value_lt (ht : ∀ c ∈ t, c.isDigit = true) : value t < 10 ^ t.length := by
  induction t with
  | nil => exact Nat.one_pos
  | cons c t ih =>
    have hc := digit_lt (ht c List.mem_cons_self)
    have hv := ih fun d hd => ht d (List.mem_cons_of_mem _ hd)
    calc value (c :: t) = digit c * 10 ^ t.length + value t := value_cons c t
      _ < digit c * 10 ^ t.length + 10 ^ t.length := Nat.add_lt_add_left hv _
      _ = (digit c + 1) * 10 ^ t.length := (Nat.succ_mul _ _).symm
      _ ≤ 10 * 10 ^ t.length := Nat.mul_le_mul_right _ hc
      _ = 10 ^ (c :: t).length := (Nat.pow_succ').symm

/-- The leading digit decides between numbers, unless it is the same. -/
theorem mul_add_lt_mul_add_iff {a b x y place : Nat} (hx : x < place) (hy : y < place) :
    a * place + x < b * place + y ↔ a < b ∨ a = b ∧ x < y := by
  rcases Nat.lt_trichotomy a b with h | rfl | h
  · have hle := Nat.mul_le_mul_right place (Nat.succ_le_of_lt h)
    rw [Nat.succ_mul] at hle
    omega
  · omega
  · have hle := Nat.mul_le_mul_right place (Nat.succ_le_of_lt h)
    rw [Nat.succ_mul] at hle
    omega

/-- Equally many digits denote the smaller number if they come first as a text. -/
theorem value_lt_value_iff (hl : t.length = u.length) (ht : ∀ c ∈ t, c.isDigit = true)
    (hu : ∀ c ∈ u, c.isDigit = true) : value t < value u ↔ t < u := by
  induction t generalizing u with
  | nil =>
    obtain rfl := List.length_eq_zero_iff.1 hl.symm
    simp
  | cons c t ih =>
    cases u with
    | nil => cases hl
    | cons d u =>
      obtain ⟨hc, ht⟩ := List.forall_mem_cons.1 ht
      obtain ⟨hd, hu⟩ := List.forall_mem_cons.1 hu
      have hl : t.length = u.length := Nat.succ.inj hl
      -- What follows the first digit is less than one at its place.
      rw [value_cons, value_cons, hl, mul_add_lt_mul_add_iff (hl ▸ value_lt ht) (value_lt hu),
        ih hl ht hu, digit_lt_digit_iff hc hd, digit_inj hc hd, List.cons_lt_cons_iff]

/-- Equally many digits denote the same number only if they are the same. -/
theorem value_inj (hl : t.length = u.length) (ht : ∀ c ∈ t, c.isDigit = true)
    (hu : ∀ c ∈ u, c.isDigit = true) : value t = value u ↔ t = u := by
  refine ⟨fun h => ?_, congrArg value⟩
  rcases lt_trichotomy t u with hlt | rfl | hlt
  · exact absurd h (Nat.ne_of_lt ((value_lt_value_iff hl ht hu).2 hlt))
  · rfl
  · exact absurd h (Nat.ne_of_gt ((value_lt_value_iff hl.symm hu ht).2 hlt))

/-- More digits do not make a number smaller. -/
theorem le_ofDigitChars (ds : Text) (n : Nat) : n ≤ Nat.ofDigitChars 10 ds n := by
  rw [Nat.ofDigitChars_eq_ofDigitChars_zero]
  exact Nat.le_add_right_of_le (Nat.le_mul_of_pos_left n (Nat.pow_pos (by decide)))

/-! ### With leading zeros -/

@[simp]
theorem value_padded (width n : Nat) : value (padded width n) = n := by
  rw [padded, Text.padStart, value, Nat.ofDigitChars_append, Nat.ofDigitChars_replicate_zero]
  exact value_natural n

theorem le_length_padded (width n : Nat) : width ≤ (padded width n).length := by
  rw [padded, Text.padStart, List.length_append, List.length_replicate]
  omega

theorem length_padded (hw : 0 < width) (hn : n < 10 ^ width) :
    (padded width n).length = width := by
  have hl : (natural n).length ≤ width := (Nat.length_toDigits_le_iff (by decide) hw).2 hn
  rw [padded, Text.padStart, List.length_append, List.length_replicate]
  omega

/-- Numbers that fit a width are equally long in it. -/
theorem length_padded_eq {m : Nat} (hw : 0 < width) (hm : m < 10 ^ width) (hn : n < 10 ^ width) :
    (padded width m).length = (padded width n).length :=
  (length_padded hw hm).trans (length_padded hw hn).symm

theorem isDigit_of_mem_padded (hc : c ∈ padded width n) : c.isDigit = true := by
  rw [padded, Text.padStart, List.mem_append] at hc
  rcases hc with hc | hc
  · rw [List.eq_of_mem_replicate hc]
    rfl
  · exact isDigit_of_mem_natural hc

theorem padded_ne_cons (hc : c.isDigit = false) : padded width n ≠ c :: t := by
  intro h
  have hd : c.isDigit = true := isDigit_of_mem_padded (h ▸ List.mem_cons_self)
  rw [hc] at hd
  cases hd

/-- Digits are what is written of their number in their width. -/
theorem padded_value (hn : t ≠ []) (ht : ∀ c ∈ t, c.isDigit = true) :
    padded t.length (value t) = t := by
  have hl : (padded t.length (value t)).length = t.length :=
    length_padded (List.length_pos_iff.2 hn) (value_lt ht)
  rw [← value_inj hl (fun c => isDigit_of_mem_padded) ht, value_padded]

/-- Numbers in the same width, which is wide enough for both, are in the order of their texts. -/
theorem padded_lt_padded_iff {m : Nat} (hw : 0 < width) (hm : m < 10 ^ width)
    (hn : n < 10 ^ width) : padded width m < padded width n ↔ m < n := by
  rw [← value_lt_value_iff (length_padded_eq hw hm hn) (fun c => isDigit_of_mem_padded)
    fun c => isDigit_of_mem_padded, value_padded, value_padded]

theorem padded_inj {m : Nat} : padded width m = padded width n ↔ m = n :=
  ⟨fun h => by rw [← value_padded width m, h, value_padded], congrArg _⟩

/-! ### Plain digits -/

/-- The text is digits, at least one, and no zero before further digits. -/
structure IsPlain (t : Text) : Prop where
  ne_nil : t ≠ []
  isDigit : ∀ c ∈ t, c.isDigit = true
  head : t.head? = some '0' → t = ['0']

theorem isPlain_natural (n : Nat) : IsPlain (natural n) where
  ne_nil := natural_ne_nil n
  isDigit _ hc := isDigit_of_mem_natural hc
  head h := by
    rcases Nat.eq_zero_or_pos n with rfl | hn
    · rfl
    · exact absurd h (head?_natural hn)

/-- Plain digits are what is written of their number. -/
theorem IsPlain.natural_value (h : IsPlain t) : natural (value t) = t := by
  by_cases hz : t.head? = some '0'
  · rw [h.head hz]
    rfl
  · -- In the width of the text there are no zeros to be put before the number.
    have hp := padded_value h.ne_nil h.isDigit
    rw [padded, Text.padStart] at hp
    cases hk : t.length - (natural (value t)).length with
    | zero => rwa [hk, List.replicate_zero, List.nil_append] at hp
    | succ k =>
      rw [hk, List.replicate_succ, List.cons_append] at hp
      rw [← hp] at hz
      exact absurd rfl hz

/-- The text is the decimal form of an integer: the plain digits of its amount, with a minus sign
    before them exactly if it is negative. -/
def IsDecimal (t : Text) (n : Int) : Prop :=
  ∃ ds, IsPlain ds ∧ value ds = n.natAbs ∧ t = if n < 0 then '-' :: ds else ds

theorem whole_eq (n : Int) :
    whole n = if n < 0 then '-' :: natural n.natAbs else natural n.natAbs := by
  cases n with
  | ofNat n => exact (if_neg (Int.not_lt.2 (Int.natCast_nonneg n))).symm
  | negSucc n => exact (if_pos (Int.negSucc_lt_zero n)).symm

/-- An integer has one decimal form, and this is how it is written. -/
theorem isDecimal_iff {n : Int} : IsDecimal t n ↔ t = whole n := by
  rw [whole_eq]
  constructor
  · rintro ⟨ds, hds, hv, rfl⟩
    rw [← hv, hds.natural_value]
  · rintro rfl
    exact ⟨_, isPlain_natural _, value_natural _, rfl⟩

/-! ### Sizes -/

/-- The digits that go on a size are taken if all of them together denote a number of 64 bits,
    and for this number. -/
theorem sizeFrom_eq_ok_iff {size : UInt64} (hn : n < 2 ^ 64) :
    sizeFrom n t = .ok size ↔
      (∀ c ∈ t, c.isDigit = true) ∧ Nat.ofDigitChars 10 t n = size.toNat := by
  induction t generalizing n with
  | nil =>
    have hof : UInt64.ofNat n = size ↔ n = size.toNat := by
      rw [← UInt64.toNat_inj, UInt64.toNat_ofNat', Nat.mod_eq_of_lt hn]
    simp [sizeFrom, hof]
  | cons c t ih =>
    rw [sizeFrom, List.forall_mem_cons, Nat.ofDigitChars_cons, Nat.mul_comm 10 n]
    split_ifs with hc hlt
    · rw [ih hlt, digit, and_iff_right hc]
    · -- Once too large, always too large.
      refine iff_of_false (fun h => nomatch h) fun ⟨_, hv⟩ => hlt ?_
      calc n * 10 + digit c ≤ Nat.ofDigitChars 10 t (n * 10 + digit c) := le_ofDigitChars t _
        _ = size.toNat := hv
        _ < 2 ^ 64 := size.toNat_lt
    · exact iff_of_false (fun h => nomatch h) fun ⟨⟨hd, _⟩, _⟩ => hc hd

/-- The text is digits, one at least and zeros before them or not, that denote a number; there may
    be a plus sign before them. -/
def IsCount (t : Text) (n : Nat) : Prop :=
  ∃ ds, ds ≠ [] ∧ (∀ c ∈ ds, c.isDigit = true) ∧ value ds = n ∧ (t = ds ∨ t = '+' :: ds)

theorem not_isCount_nil : ¬ IsCount [] n := by
  rintro ⟨ds, hne, -, -, h | h⟩
  · exact hne h.symm
  · cases h

/-- Behind a plus sign there are only digits. -/
theorem isCount_plus_iff :
    IsCount ('+' :: t) n ↔ t ≠ [] ∧ (∀ c ∈ t, c.isDigit = true) ∧ value t = n := by
  constructor
  · rintro ⟨ds, hne, hd, hv, h | h⟩
    · exact absurd (hd '+' (h ▸ List.mem_cons_self)) (by decide)
    · obtain rfl := (List.cons.inj h).2
      exact ⟨hne, hd, hv⟩
  · rintro ⟨hne, hd, hv⟩
    exact ⟨t, hne, hd, hv, .inr rfl⟩

theorem isCount_cons_iff (hc : c ≠ '+') :
    IsCount (c :: t) n ↔ (∀ d ∈ c :: t, d.isDigit = true) ∧ value (c :: t) = n := by
  constructor
  · rintro ⟨ds, -, hd, hv, rfl | h⟩
    · exact ⟨hd, hv⟩
    · exact absurd (List.cons.inj h).1 hc
  · rintro ⟨hd, hv⟩
    exact ⟨c :: t, List.cons_ne_nil c t, hd, hv, .inl rfl⟩

/-- A text is read as a size if it is a count of no more than 64 bits, and as that count. -/
theorem size?_eq_ok_iff {size : UInt64} : size? t = .ok size ↔ IsCount t size.toNat := by
  rw [size?.eq_def]
  split
  · exact iff_of_false nofun not_isCount_nil
  · exact iff_of_false nofun fun h => (isCount_plus_iff.1 h).1 rfl
  · next c cs =>
    rw [sizeFrom_eq_ok_iff (by decide), isCount_plus_iff]
    exact (and_iff_right (List.cons_ne_nil c cs)).symm
  · next c cs halone hmore =>
    have hplus : c ≠ '+' := by
      rintro rfl
      cases cs with
      | nil => exact halone rfl rfl
      | cons d ds => exact hmore d ds rfl rfl
    rw [sizeFrom_eq_ok_iff (by decide), isCount_cons_iff hplus]
    rfl

example : size? "+0018446744073709551615" = .ok 18446744073709551615 ∧
    size? "18446744073709551616" = .error .tooLarge := by
  decide

/-- A size is read as it is written. -/
theorem size?_ofSize (size : UInt64) : size? (ofSize size) = .ok size :=
  size?_eq_ok_iff.2 ⟨natural size.toNat, natural_ne_nil _, fun _ => isDigit_of_mem_natural,
    value_natural _, .inl rfl⟩

end Backoffice.Numeral
