import Backoffice.Decimal.Binary64
import Backoffice.Text.Numeral

/-!
# Fixed places

A finite number with a fixed number of decimal places: the exact value rounded
to the nearest multiple of the last place, a tie going to the even one. The
minus sign is written whenever the sign bit is set, for zeros too.
-/

namespace Backoffice.Decimal

/-- A natural number of units of the last place, with a point before the last
    `places` digits. -/
def pointed (places : Nat) (units : Nat) : Text :=
  Numeral.natural (units / Nat.pow 10 places) ++ "." ++
    Numeral.padded places (units % Nat.pow 10 places)

/-- The magnitude `num / den` to `places` decimal places. -/
def fixedRatio (places : Nat) (num den : Nat) : Text :=
  pointed places (roundDiv .toEven (num * Nat.pow 10 places) den)

/-- A finite number to `places` decimal places. -/
def fixed (places : Nat) (x : Binary64) : Text :=
  let (num, den) := x.magnitude
  if x.isNegative then '-' :: fixedRatio places num den else fixedRatio places num den

end Backoffice.Decimal
