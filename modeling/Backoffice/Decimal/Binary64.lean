import Backoffice.Decimal.Rounding

/-!
# Binary floating point

Numbers of the 64-bit binary format, kept as their bits. A finite one denotes a
whole number times a power of two, and all arithmetic here is done exactly on
that and then rounded once, to the nearest number of the format, a tie going to
the even one.

* `Binary64.parts`: what the bits denote;
* `Binary64.ofRatio`: the nearest number to a quotient;
* `Binary64.agrees`: equality as numbers, for which a NaN differs from itself
  and the two zeros are equal.
-/

namespace Backoffice

/-- A number of the 64-bit binary format. -/
structure Binary64 where
  bits : UInt64
  deriving DecidableEq, Repr

namespace Binary64

/-- What 64 bits denote: no number, an infinity, or `mantissa · 2 ^ exponent`. -/
inductive Parts where
  | nan
  | infinite (negative : Bool)
  | finite (negative : Bool) (mantissa : Nat) (exponent : Int)
  deriving DecidableEq, Repr

/-- Whether the sign bit is set. -/
def isNegative (x : Binary64) : Bool :=
  Nat.pow 2 63 ≤ x.bits.toNat

/-- What the bits denote. -/
def parts (x : Binary64) : Parts :=
  let rank : Nat := x.bits.toNat / Nat.pow 2 52 % Nat.pow 2 11
  let fraction : Nat := x.bits.toNat % Nat.pow 2 52
  if rank = Nat.pow 2 11 - 1 then
    if fraction = 0 then .infinite x.isNegative else .nan
  else if rank = 0 then .finite x.isNegative fraction (-1074)
  else .finite x.isNegative (fraction + Nat.pow 2 52) ((rank : Int) - 1075)

/-- The number whose sign and remaining 63 bits are given. -/
def ofMagnitude (negative : Bool) (magnitude : Nat) : Binary64 :=
  ⟨UInt64.ofNat ((if negative then Nat.pow 2 63 else 0) + magnitude)⟩

/-- The magnitude bits of infinity. -/
def infinityBits : Nat :=
  (Nat.pow 2 11 - 1) * Nat.pow 2 52

/-- A whole number times a power of two as a quotient of natural numbers. -/
def ratio (mantissa : Nat) (exponent : Int) : Nat × Nat :=
  match exponent with
  | .ofNat e => (mantissa * Nat.pow 2 e, 1)
  | .negSucc e => (mantissa, Nat.pow 2 (e + 1))

/-- The exponent of the last place of the number nearest to `num / den`: the one
    that leaves 53 binary digits, but never below the least of the format. -/
def lastPlace (num den : Nat) : Int :=
  let guess : Int := (Nat.log2 num : Int) - Nat.log2 den
  let (p, q) := ratio 1 guess
  let top := if p * den ≤ num * q then guess else guess - 1
  max (top - 52) (-1074)

/-- The number nearest to `num / den`; past the greatest finite one, infinity.
    Adding the rounded mantissa to the place lets a carry move on into the
    exponent by itself. -/
def ofRatio (negative : Bool) (num den : Nat) : Binary64 :=
  if num = 0 then ofMagnitude negative 0
  else
    let place := lastPlace num den
    let (p, q) := ratio 1 place
    let mantissa := Decimal.roundDiv .toEven (num * q) (den * p)
    ofMagnitude negative (min ((place + 1074).toNat * Nat.pow 2 52 + mantissa) infinityBits)

/-- The nearest number to a natural number. -/
def ofNat (n : Nat) : Binary64 :=
  ofRatio false n 1

/-- Zero without sign. -/
def zero : Binary64 :=
  ofMagnitude false 0

/-- Whether the number is a zero of either sign. -/
def isZero (x : Binary64) : Bool :=
  x.bits.toNat % Nat.pow 2 63 = 0

/-- Whether the number is an infinity of either sign. -/
def isInfinite (x : Binary64) : Bool :=
  match x.parts with
  | .infinite _ => true
  | _ => false

/-- The number with its sign turned. -/
def negate (x : Binary64) : Binary64 :=
  ofMagnitude (!x.isNegative) (x.bits.toNat % Nat.pow 2 63)

/-- The magnitude of a finite number as a quotient; zero for the others. -/
def magnitude (x : Binary64) : Nat × Nat :=
  match x.parts with
  | .finite _ m e => ratio m e
  | _ => (0, 1)

/-- The product of two finite numbers without sign. -/
def times (x y : Binary64) : Binary64 :=
  ofRatio false (x.magnitude.1 * y.magnitude.1) (x.magnitude.2 * y.magnitude.2)

/-- The quotient of two finite numbers without sign, the second not zero. -/
def dividedBy (x y : Binary64) : Binary64 :=
  ofRatio false (x.magnitude.1 * y.magnitude.2) (x.magnitude.2 * y.magnitude.1)

/-- Equality as numbers. -/
def agrees (x y : Binary64) : Bool :=
  match x.parts, y.parts with
  | .nan, _ => false
  | _, .nan => false
  | _, _ => x.bits == y.bits || (x.isZero && y.isZero)

end Binary64

end Backoffice
