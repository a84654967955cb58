import Backoffice.Decimal.Binary64
import Mathlib.Algebra.Order.Field.Rat
import Mathlib.Tactic.Ring

/-!
# What the bits denote

The highest bit of a number is its sign, the next eleven are its exponent and the remaining ones
its fraction, the binary places of an amount from one up to below two. With the least exponent the
amount is below one instead, and the greatest is kept for infinities and for no number at all. The
quotient that is computed for a finite number is this amount exactly.

* `amount`: the amount of a finite number by its bits;
* `magnitude_eq_amount`: the quotient computed for it is the same.
-/

namespace Backoffice.Binary64

variable {x : Binary64}

/-! ### Fields -/

/-- The eleven bits below the sign. -/
def exponentField (x : Binary64) : ℕ :=
  x.bits.toNat / 2 ^ 52 % 2 ^ 11

/-- The 52 bits below the exponent. -/
def fractionField (x : Binary64) : ℕ :=
  x.bits.toNat % 2 ^ 52

/-- The number is neither an infinity nor none at all: some bit of the exponent is not set. -/
def IsFinite (x : Binary64) : Prop :=
  x.exponentField ≠ 2 ^ 11 - 1

instance : Decidable x.IsFinite :=
  inferInstanceAs (Decidable (_ ≠ _))

/-- The exact amount of a finite number. -/
def amount (x : Binary64) : ℚ :=
  if x.exponentField = 0 then x.fractionField / 2 ^ 52 * 2 ^ (-1022 : ℤ)
  else (1 + x.fractionField / 2 ^ 52) * 2 ^ (x.exponentField - 1023 : ℤ)

/-- The sign is the highest of the 64 bits. -/
theorem isNegative_eq_testBit : x.isNegative = x.bits.toNat.testBit 63 := by
  have hlt : x.bits.toNat < 2 ^ 64 := x.bits.toNat_lt
  rw [isNegative, show Nat.pow 2 63 = 2 ^ 63 from rfl, Nat.testBit_eq_decide_div_mod_eq,
    decide_eq_decide]
  omega

theorem parts_eq (x : Binary64) : x.parts =
    if x.exponentField = 2 ^ 11 - 1 then
      if x.fractionField = 0 then .infinite x.isNegative else .nan
    else if x.exponentField = 0 then .finite x.isNegative x.fractionField (-1074)
    else .finite x.isNegative (x.fractionField + 2 ^ 52) (x.exponentField - 1075) :=
  rfl

/-! ### Amounts -/

theorem ratio_snd_pos (mantissa : ℕ) (exponent : ℤ) : 0 < (ratio mantissa exponent).2 := by
  cases exponent with
  | ofNat e => exact Nat.one_pos
  | negSucc e => exact Nat.pow_pos Nat.two_pos

theorem ratio_eq (mantissa : ℕ) (exponent : ℤ) :
    ((ratio mantissa exponent).1 / (ratio mantissa exponent).2 : ℚ) = mantissa * 2 ^ exponent := by
  cases exponent with
  | ofNat e =>
    rw [ratio, Nat.cast_one, div_one, Int.ofNat_eq_natCast, zpow_natCast]
    exact_mod_cast rfl
  | negSucc e =>
    rw [ratio, zpow_negSucc, ← div_eq_mul_inv]
    exact_mod_cast rfl

/-- A finite number is a whole number of last places, and these make up its amount. -/
theorem IsFinite.exists_parts (hx : x.IsFinite) :
    ∃ mantissa exponent, x.parts = .finite x.isNegative mantissa exponent ∧
      x.amount = mantissa * 2 ^ exponent := by
  have hplace (e : ℤ) : (2 : ℚ) ^ (e - 52) = 2 ^ e / 2 ^ 52 := by
    rw [zpow_sub₀ two_ne_zero, zpow_ofNat]
  rw [parts_eq, if_neg hx, amount]
  split_ifs
  · refine ⟨_, _, rfl, ?_⟩
    rw [show (-1074 : ℤ) = -1022 - 52 by rfl, hplace]
    ring
  · refine ⟨_, _, rfl, ?_⟩
    rw [show (x.exponentField - 1075 : ℤ) = x.exponentField - 1023 - 52 by ring, hplace]
    push_cast
    ring

theorem magnitude_snd_pos (x : Binary64) : 0 < x.magnitude.2 := by
  rw [magnitude]
  split
  · exact ratio_snd_pos _ _
  · exact Nat.one_pos

/-- The quotient that is computed for a finite number is its amount. -/
theorem IsFinite.magnitude_eq_amount (hx : x.IsFinite) :
    (x.magnitude.1 / x.magnitude.2 : ℚ) = x.amount := by
  obtain ⟨m, e, hparts, hamount⟩ := hx.exists_parts
  rw [magnitude, hparts, hamount]
  exact ratio_eq m e

end Backoffice.Binary64
