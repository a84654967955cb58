/-!
# Rounding a quotient

A quotient of natural numbers rounded to a nearest whole number. Which way a
tie goes is a parameter.

* `roundDiv_le`, `le_roundDiv`: the result is within half a unit.
-/

namespace Backoffice.Decimal

/-- Where a quotient midway between two whole numbers goes. -/
inductive Tie where
  | toEven
  | up
  deriving DecidableEq, Repr

/-- The whole number nearest to `num / den`. -/
def roundDiv (tie : Tie) (num den : Nat) : Nat :=
  let low := num / den
  let rest := num % den
  if 2 * rest < den then low
  else if den < 2 * rest then low + 1
  else
    match tie with
    | .toEven => if low % 2 = 0 then low else low + 1
    | .up => low + 1

/-- The result is at most half a unit above the quotient. -/
theorem roundDiv_le (tie : Tie) (num den : Nat) :
    2 * den * roundDiv tie num den ≤ 2 * num + den := by
  have h := Nat.div_add_mod num den
  unfold roundDiv
  generalize num / den = low at *
  generalize num % den = rest at *
  have hs : 2 * den * (low + 1) = 2 * (den * low) + 2 * den := by
    rw [Nat.mul_add, Nat.mul_one, Nat.mul_assoc]
  have hl : 2 * den * low = 2 * (den * low) := Nat.mul_assoc ..
  cases tie <;> dsimp only <;> split <;> try split <;> try split
  all_goals omega

/-- The result is at most half a unit below the quotient. -/
theorem le_roundDiv (tie : Tie) (num den : Nat) (hd : 0 < den) :
    2 * num ≤ 2 * den * roundDiv tie num den + den := by
  have h := Nat.div_add_mod num den
  have hr := Nat.mod_lt num hd
  unfold roundDiv
  generalize num / den = low at *
  generalize num % den = rest at *
  have hs : 2 * den * (low + 1) = 2 * (den * low) + 2 * den := by
    rw [Nat.mul_add, Nat.mul_one, Nat.mul_assoc]
  have hl : 2 * den * low = 2 * (den * low) := Nat.mul_assoc ..
  cases tie <;> dsimp only <;> split <;> try split <;> try split
  all_goals omega

end Backoffice.Decimal
