import Backoffice.Decimal.Binary64
import Backoffice.Text.Numeral

/-!
# The fewest digits that read back

Every decimal close enough to a binary number reads back as that number. Among
those with the fewest digits the nearest one is chosen. Being close enough means
to lie within half the gap to either neighbour, the ends included when the
mantissa is even, since a tie is read as the even one.

The search goes through the grids of one digit, two digits and so on: if any
point of a grid is close enough, one of the two points around the number is.
-/

namespace Backoffice.Decimal

/-- The digits of a decimal number, and the power of ten of its last digit. -/
structure Digits where
  whole : Nat
  power : Int
  deriving DecidableEq, Repr

/-- The decimals that read back as one number, all over one denominator: they
    lie from `low` to `high` around `mid`. -/
structure Interval where
  low : Nat
  mid : Nat
  high : Nat
  den : Nat
  closed : Bool
  deriving DecidableEq, Repr

/-- The interval of `mantissa · 2 ^ exponent`. Below a power of two the gap is
    half as wide, unless there is no smaller exponent. -/
def Interval.around (mantissa : Nat) (exponent : Int) : Interval :=
  let (p, q) := Binary64.ratio 1 (exponent - 2)
  let below := if mantissa = Nat.pow 2 52 ∧ -1074 < exponent then 1 else 2
  { low := (4 * mantissa - below) * p
    mid := 4 * mantissa * p
    high := (4 * mantissa + 2) * p
    den := q
    closed := mantissa % 2 = 0 }

/-- Whether `n` times the grid step `p / q` lies in the interval. -/
def Interval.contains (i : Interval) (n p q : Nat) : Bool :=
  let point := n * p * i.den
  if i.closed then i.low * q ≤ point && point ≤ i.high * q
  else i.low * q < point && point < i.high * q

/-- Ten to an integer power as a quotient. -/
def tenTo : Int → Nat × Nat
  | .ofNat e => (Nat.pow 10 e, 1)
  | .negSucc e => (1, Nat.pow 10 (e + 1))

/-- The number of digits before the point of `num / den`; below one, less by each
    zero that follows the point. -/
def decade (num den : Nat) : Int :=
  if den ≤ num then (Numeral.natural (num / den)).length
  else
    let inverse := (den + num - 1) / num
    1 - ((Numeral.natural (inverse - 1)).length : Int)

/-- The point of the grid `10 ^ power` that stands for the interval, if any. -/
def Interval.onGrid? (i : Interval) (tie : Tie) (power : Int) : Option Nat :=
  let (p, q) := tenTo power
  let low := i.mid * q / (i.den * p)
  let nearest := roundDiv tie (i.mid * q) (i.den * p)
  if i.contains low p q && i.contains (low + 1) p q then some nearest
  else if i.contains low p q then some low
  else if i.contains (low + 1) p q then some (low + 1)
  else none

/-- Tries the grids of `count` digits and more, `left` of them; the last resort
    is the grid after these. -/
def Interval.search (i : Interval) (tie : Tie) (top : Int) : Nat → Nat → Digits
  | 0, count => ⟨roundDiv tie (i.mid * (tenTo (top - count)).2) (i.den * (tenTo (top - count)).1),
      top - count⟩
  | left + 1, count =>
    match i.onGrid? tie (top - count) with
    | some n => ⟨n, top - count⟩
    | none => i.search tie top left (count + 1)

/-- Moves the zeros at the end of the digits into the power of ten. -/
def Digits.trimmed (d : Digits) : Nat → Digits
  | 0 => d
  | fuel + 1 => if d.whole % 10 = 0 then Digits.trimmed ⟨d.whole / 10, d.power + 1⟩ fuel else d

/-- The fewest digits that read back as `mantissa · 2 ^ exponent`, which is not
    zero. Seventeen digits always do. -/
def shortest (tie : Tie) (mantissa : Nat) (exponent : Int) : Digits :=
  let i := Interval.around mantissa exponent
  (i.search tie (decade i.mid i.den) 16 1).trimmed 17

end Backoffice.Decimal
