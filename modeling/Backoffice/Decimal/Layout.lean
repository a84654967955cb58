import Backoffice.Decimal.Shortest

/-!
# Layouts of a decimal number

A *layout* decides how the fewest digits of a number are set: which powers of
ten are written in place, how a power that is not is marked, and which of two
equally near digit strings is taken.
-/

namespace Backoffice.Decimal

/-- How a finite number is set. -/
structure Layout where
  /-- The least power of ten of the first digit that is written in place. -/
  lowest : Int
  /-- The greatest such power. -/
  highest : Int
  /-- Whether a positive power is written with a plus sign. -/
  plus : Bool
  /-- Which of two equally near digit strings is taken. -/
  tie : Tie
  deriving DecidableEq, Repr

/-- The digits with the point in place, and at least one digit on either side. -/
def Digits.inPlace (d : Digits) : Text :=
  let digits := Numeral.natural d.whole
  match d.power with
  | .ofNat p => digits ++ List.replicate p '0' ++ ".0"
  | .negSucc p =>
    let places := p + 1
    if places < digits.length then
      digits.take (digits.length - places) ++ "." ++ digits.drop (digits.length - places)
    else "0." ++ Text.padStart places '0' digits

/-- The power of ten of the first digit. -/
def Digits.leading (d : Digits) : Int :=
  d.power + ((Numeral.natural d.whole).length - 1 : Nat)

/-- The digits with the point after the first, and the power of ten behind. -/
def Digits.scientific (plus : Bool) (d : Digits) : Text :=
  let digits := Numeral.natural d.whole
  let sign : Text := if plus && 0 ≤ d.leading then "+" else ""
  let fraction : Text := if digits.length ≤ 1 then "" else "." ++ digits.drop 1
  digits.take 1 ++ fraction ++ "e" ++ sign ++ Numeral.whole d.leading

/-- A magnitude, which is not zero, in a layout. -/
def Layout.magnitude (l : Layout) (mantissa : Nat) (exponent : Int) : Text :=
  let d := shortest l.tie mantissa exponent
  if l.lowest ≤ d.leading ∧ d.leading ≤ l.highest then d.inPlace else d.scientific l.plus

/-- A number in a layout. -/
def Layout.render (l : Layout) (x : Binary64) : Text :=
  match x.parts with
  | .nan => "NaN"
  | .infinite negative => if negative then "-inf" else "inf"
  | .finite negative mantissa exponent =>
    let body : Text := if mantissa = 0 then "0.0" else l.magnitude mantissa exponent
    if negative then '-' :: body else body

/-- Numbers of a data text: in place from `10 ^ -5` up to below `10 ^ 16`. -/
def Layout.data : Layout :=
  { lowest := -5, highest := 15, plus := true, tie := .toEven }

/-- Numbers of a log line: in place from `10 ^ -4` up to below `10 ^ 16`. -/
def Layout.log : Layout :=
  { lowest := -4, highest := 15, plus := false, tie := .up }

end Backoffice.Decimal
