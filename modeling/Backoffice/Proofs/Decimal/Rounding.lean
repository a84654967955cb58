import Backoffice.Decimal.Rounding
import Mathlib.Algebra.Order.Field.Rat
import Mathlib.Algebra.Order.Field.Basic
import Mathlib.Tactic.FieldSimp
import Mathlib.Tactic.Linarith
import Mathlib.Tactic.Ring

/-!
# The nearest multiple

A number is rounded to a unit by taking the multiple of the unit that is nearest to it. Where two
are equally near, one of them is an even multiple and the other an odd one, and the even one is
taken; so there is always one result. This is how a quotient of natural numbers is rounded.

* `IsNearest`, `IsRounded`: what it is to be rounded to a unit;
* `IsRounded.unique`: there is one result only;
* `isNearest_roundDiv`: the rounded quotient is the nearest whole number of units.
-/

namespace Backoffice.Decimal

variable {unit q r s : ℚ} {m n : ℤ} {num den : ℕ}

/-- Of the multiples of a unit, the `n`-th is nearest to `q`; and if another is as near, `n` is
    even. -/
structure IsNearest (unit q : ℚ) (n : ℤ) : Prop where
  nearest : ∀ m : ℤ, |q - n * unit| ≤ |q - m * unit|
  even : ∀ m : ℤ, m ≠ n → |q - n * unit| = |q - m * unit| → Even n

/-- The number is the multiple of the unit that `q` is rounded to. -/
def IsRounded (unit q r : ℚ) : Prop :=
  ∃ n : ℤ, r = n * unit ∧ IsNearest unit q n

/-- Two multiples that are equally near and both even have one midway between them, which would be
    nearer. -/
theorem IsNearest.unique (hu : 0 < unit) (hm : IsNearest unit q m) (hn : IsNearest unit q n) :
    m = n := by
  by_contra hne
  have hdist : |q - m * unit| = |q - n * unit| := le_antisymm (hm.nearest n) (hn.nearest m)
  obtain ⟨i, hi⟩ := hm.even n (Ne.symm hne) hdist
  obtain ⟨j, hj⟩ := hn.even m hne hdist.symm
  have hsame {a b : ℤ} (h : (a : ℚ) * unit = b * unit) : a = b := by
    exact_mod_cast mul_right_cancel₀ hu.ne' h
  rcases abs_eq_abs.1 hdist with h | h
  · exact hne (hsame (by linarith))
  · have hmid : q = ((i + j : ℤ) : ℚ) * unit := by
      have hm' : (m : ℚ) = i + i := by exact_mod_cast hi
      have hn' : (n : ℚ) = j + j := by exact_mod_cast hj
      rw [hm', hn'] at h
      push_cast
      linarith
    have hzero : |q - m * unit| = 0 := by
      have hle := hm.nearest (i + j)
      rw [← hmid, sub_self, abs_zero] at hle
      exact le_antisymm hle (abs_nonneg _)
    rw [hzero] at hdist
    refine hne (hsame ?_)
    rw [← sub_eq_zero.1 (abs_eq_zero.1 hzero), ← sub_eq_zero.1 (abs_eq_zero.1 hdist.symm)]

theorem IsRounded.unique (hu : 0 < unit) (hr : IsRounded unit q r) (hs : IsRounded unit q s) :
    r = s := by
  obtain ⟨m, rfl, hm⟩ := hr
  obtain ⟨n, rfl, hn⟩ := hs
  rw [hm.unique hu hn]

/-- The nearest whole number says which multiple of a unit is nearest. -/
theorem IsNearest.scale (h : IsNearest 1 q n) (hu : 0 < unit) : IsNearest unit (q * unit) n := by
  have hdist (m : ℤ) : |q * unit - m * unit| = |q - m * 1| * unit := by
    rw [mul_one, ← sub_mul, abs_mul, abs_of_pos hu]
  refine ⟨fun m => ?_, fun m hm heq => h.even m hm ?_⟩
  · rw [hdist, hdist]
    exact mul_le_mul_of_nonneg_right (h.nearest m) hu.le
  · rw [hdist, hdist] at heq
    exact mul_right_cancel₀ hu.ne' heq

/-- A whole number within a half is the nearest, and if it is nearer than that no other is as
    near. -/
theorem isNearest_of_abs_le (h : |q - n| ≤ 1 / 2) (he : |q - n| = 1 / 2 → Even n) :
    IsNearest 1 q n := by
  -- Different whole numbers are at least one apart.
  have hfar (m : ℤ) (hm : m ≠ n) : 1 / 2 ≤ |q - m| := by
    have hone : (1 : ℚ) ≤ |(n : ℚ) - m| := by
      exact_mod_cast Int.one_le_abs (sub_ne_zero.2 hm.symm)
    have htriangle : |(n : ℚ) - m| ≤ |n - q| + |q - m| := abs_sub_le _ _ _
    rw [abs_sub_comm (n : ℚ) q] at htriangle
    linarith
  refine ⟨fun m => ?_, fun m hm heq => he (le_antisymm h ?_)⟩
  · rw [mul_one, mul_one]
    rcases eq_or_ne m n with rfl | hm
    · exact le_rfl
    · exact h.trans (hfar m hm)
  · rw [mul_one, mul_one] at heq
    exact heq ▸ hfar m hm

/-! ### Quotients -/

/-- A quotient midway between two whole numbers goes to the even one. -/
theorem even_roundDiv (num : ℕ) (hd : 0 < den)
    (h : 2 * den * roundDiv .toEven num den = 2 * num + den ∨
      2 * num = 2 * den * roundDiv .toEven num den + den) : Even (roundDiv .toEven num den) := by
  have hdiv := Nat.div_add_mod num den
  have hmod := Nat.mod_lt num hd
  rw [Nat.even_iff]
  unfold roundDiv at h ⊢
  generalize num / den = low at *
  generalize num % den = rest at *
  have hnext : 2 * den * (low + 1) = 2 * (den * low) + 2 * den := by ring
  have hlow : 2 * den * low = 2 * (den * low) := by ring
  dsimp only at h ⊢
  split_ifs at h ⊢ <;> omega

/-- A rounded quotient is the whole number nearest to it. -/
theorem isNearest_roundDiv (hd : 0 < den) (num : ℕ) :
    IsNearest 1 (num / den) (roundDiv .toEven num den : ℕ) := by
  have heven := even_roundDiv num hd
  have habove : (2 * den * roundDiv .toEven num den : ℚ) ≤ 2 * num + den := by
    exact_mod_cast roundDiv_le .toEven num den
  have hbelow : (2 * num : ℚ) ≤ 2 * den * roundDiv .toEven num den + den := by
    exact_mod_cast le_roundDiv .toEven num den hd
  generalize roundDiv .toEven num den = n at *
  have hden : (0 : ℚ) < 2 * den := by exact_mod_cast Nat.mul_pos Nat.two_pos hd
  have hdiff : (num / den - (n : ℤ) : ℚ) = (2 * num - 2 * den * n) / (2 * den) := by
    rw [Int.cast_natCast]
    field_simp
  have hhalf : (1 / 2 : ℚ) = den / (2 * den) := by field_simp
  refine isNearest_of_abs_le ?_ fun htie => (Int.even_coe_nat n).2 (heven ?_)
  · rw [hdiff, hhalf, abs_div, abs_of_pos hden, div_le_div_iff_of_pos_right hden, abs_le]
    constructor <;> linarith
  · rw [hdiff, hhalf, abs_div, abs_of_pos hden, div_left_inj' hden.ne'] at htie
    rcases eq_or_eq_neg_of_abs_eq htie with h | h
    · right
      exact_mod_cast (by linarith : (2 * num : ℚ) = 2 * den * n + den)
    · left
      exact_mod_cast (by linarith : (2 * den * n : ℚ) = 2 * num + den)

end Backoffice.Decimal
