import Backoffice.Decimal.Fixed
import Backoffice.Proofs.Decimal.Binary64
import Backoffice.Proofs.Decimal.Rounding
import Backoffice.Proofs.Text.Numeral

/-!
# Fixed places, read back

Plain digits, a point and so many digits say how many units of the last place a number has. There is
one such text for each number of units, and the text of a finite number is the one for its amount
rounded to the last place.

* `IsPointed`, `isPointed_iff`: the digits of a number of units;
* `IsFixed`, `isFixed_iff`: the text of a finite number.
-/

namespace Backoffice.Decimal

variable {places units num den : ℕ} {x : Binary64} {t : Text}

/-! ### Units of the last place -/

/-- The text is plain digits, a point and `places` digits, and the number that these digits denote
    is `q`. -/
def IsPointed (places : ℕ) (q : ℚ) (t : Text) : Prop :=
  ∃ whole fraction, t = whole ++ '.' :: fraction ∧ Numeral.IsPlain whole ∧
    (fraction.length = places ∧ ∀ c ∈ fraction, c.isDigit = true) ∧
    Numeral.value whole + Numeral.value fraction / 10 ^ places = q

theorem pointed_eq (places units : ℕ) : pointed places units =
    Numeral.natural (units / 10 ^ places) ++
      '.' :: Numeral.padded places (units % 10 ^ places) := by
  rw [pointed, List.append_assoc]
  rfl

/-- What follows the point is less than one, so the digits on either side of it are known. -/
theorem isPointed_iff (hp : 0 < places) :
    IsPointed places (units / 10 ^ places) t ↔ t = pointed places units := by
  have hten : (10 : ℚ) ^ places ≠ 0 := pow_ne_zero _ (by decide)
  have hpos : 0 < 10 ^ places := Nat.pow_pos (by decide)
  rw [pointed_eq]
  constructor
  · rintro ⟨whole, fraction, rfl, hwhole, ⟨rfl, hdigits⟩, hq⟩
    have hlt := Numeral.value_lt hdigits
    have hunits : Numeral.value whole * 10 ^ fraction.length + Numeral.value fraction = units := by
      rw [eq_div_iff hten, add_mul, div_mul_cancel₀ _ hten] at hq
      exact_mod_cast hq
    have hnil : fraction ≠ [] := List.ne_nil_of_length_pos hp
    rw [← hunits, Nat.mul_comm, Nat.mul_add_div hpos, Nat.div_eq_of_lt hlt, Nat.add_zero,
      Nat.mul_add_mod, Nat.mod_eq_of_lt hlt, hwhole.natural_value,
      Numeral.padded_value hnil hdigits]
  · rintro rfl
    have hlength := Numeral.length_padded hp (Nat.mod_lt units hpos)
    refine ⟨_, _, rfl, Numeral.isPlain_natural _,
      ⟨hlength, fun _ => Numeral.isDigit_of_mem_padded⟩, ?_⟩
    rw [Numeral.value_natural, Numeral.value_padded, eq_div_iff hten, add_mul,
      div_mul_cancel₀ _ hten]
    exact_mod_cast Nat.div_add_mod' units (10 ^ places)

/-! ### Rounded numbers -/

/-- A quotient to so many places is its multiple by a power of ten, rounded to a whole number. -/
theorem isRounded_iff (hd : 0 < den) {r : ℚ} :
    IsRounded (1 / 10 ^ places) (num / den) r ↔
      r = roundDiv .toEven (num * 10 ^ places) den / 10 ^ places := by
  have hten : (0 : ℚ) < 10 ^ places := pow_pos (by decide) _
  have hunit : (0 : ℚ) < 1 / 10 ^ places := one_div_pos.2 hten
  have hround : IsRounded (1 / 10 ^ places) (num / den : ℚ)
      (roundDiv .toEven (num * 10 ^ places) den / 10 ^ places) := by
    refine ⟨roundDiv .toEven (num * 10 ^ places) den, ?_, ?_⟩
    · rw [Int.cast_natCast, mul_one_div]
    · have hscaled := (isNearest_roundDiv hd (num * 10 ^ places)).scale hunit
      have hq : ((num * 10 ^ places : ℕ) / den * (1 / 10 ^ places) : ℚ) = num / den := by
        push_cast
        field_simp
      rwa [hq] at hscaled
  exact ⟨fun h => h.unique hunit hround, fun h => h ▸ hround⟩

/-- The text is a minus sign, exactly if the number is negative, plain digits, a point and `places`
    digits, and the digits denote the amount rounded to the last place. -/
def IsFixed (places : ℕ) (negative : Bool) (amount : ℚ) (t : Text) : Prop :=
  ∃ digits r, t = (if negative then '-' :: digits else digits) ∧ IsPointed places r digits ∧
    IsRounded (1 / 10 ^ places) amount r

theorem fixed_eq (places : ℕ) (x : Binary64) : fixed places x =
    if x.isNegative then '-' :: fixedRatio places x.magnitude.1 x.magnitude.2
    else fixedRatio places x.magnitude.1 x.magnitude.2 :=
  rfl

theorem fixedRatio_eq (places num den : ℕ) :
    fixedRatio places num den = pointed places (roundDiv .toEven (num * 10 ^ places) den) :=
  rfl

/-- There is one text of a finite number to so many places, and this is how it is written. -/
theorem isFixed_iff (hp : 0 < places) (hx : x.IsFinite) :
    IsFixed places x.isNegative x.amount t ↔ t = fixed places x := by
  rw [fixed_eq, fixedRatio_eq, ← hx.magnitude_eq_amount]
  simp only [IsFixed, isRounded_iff x.magnitude_snd_pos]
  constructor
  · rintro ⟨digits, r, rfl, hdigits, rfl⟩
    rw [(isPointed_iff hp).1 hdigits]
  · rintro rfl
    exact ⟨_, _, rfl, (isPointed_iff hp).2 rfl, rfl⟩

end Backoffice.Decimal
