import Backoffice.Calendar.Date
import Backoffice.Text.Numeral

/-!
# Dates as text

A date is written `YYYY-MM-DD`; a year outside 0 to 9999 has a sign and as many
digits as it needs. A time of day follows after a space, with as few of three,
six or nine places of a second as lose nothing; a leap second is second 60.

Reading is strict: exactly ten characters of that shape, and a day that exists.
-/

namespace Backoffice

/-- A year: four digits, or a sign and at least four digits. -/
def yearText (year : Int) : Text :=
  if 0 ≤ year ∧ year ≤ 9999 then Numeral.padded 4 year.toNat
  else (if year < 0 then '-' else '+') :: Numeral.padded 4 year.natAbs

/-- A date as `YYYY-MM-DD`. -/
def Date.toText (d : Date) : Text :=
  yearText d.year ++ "-" ++ Numeral.padded 2 d.month ++ "-" ++ Numeral.padded 2 d.day

/-- The places of a second: none, three, six or nine. -/
def fractionText (nano : Nat) : Text :=
  if nano = 0 then []
  else if nano % 1000000 = 0 then '.' :: Numeral.padded 3 (nano / 1000000)
  else if nano % 1000 = 0 then '.' :: Numeral.padded 6 (nano / 1000)
  else '.' :: Numeral.padded 9 nano

/-- A time of day as `HH:MM:SS` and its fraction. -/
def TimeOfDay.toText (t : TimeOfDay) : Text :=
  let leap := 1000000000 ≤ t.nano
  let second := if leap then t.second + 1 else t.second
  let nano := if leap then t.nano - 1000000000 else t.nano
  Numeral.padded 2 t.hour ++ ":" ++ Numeral.padded 2 t.minute ++ ":" ++
    Numeral.padded 2 second ++ fractionText nano

/-- An instant: the date, `sep` and the time of day. -/
def DateTime.toTextWith (sep : Char) (t : DateTime) : Text :=
  t.date.toText ++ sep :: t.time.toText

/-- An instant: the date, a space and the time of day. -/
def DateTime.toText (t : DateTime) : Text :=
  t.toTextWith ' '

/-- The date of an instant in ten characters; a longer one is cut off. -/
def DateTime.dayText (t : DateTime) : Text :=
  t.date.toText.take 10

/-- The date that `YYYY-MM-DD` stands for, if the text has that shape and the day
    exists. -/
def Date.ofText? : Text → Option Date
  | [y₁, y₂, y₃, y₄, s₁, m₁, m₂, s₂, d₁, d₂] =>
    if s₁ = '-' ∧ s₂ = '-' ∧ [y₁, y₂, y₃, y₄, m₁, m₂, d₁, d₂].all Char.isDigit then
      Date.of? (Numeral.value [y₁, y₂, y₃, y₄]) (Numeral.value [m₁, m₂]) (Numeral.value [d₁, d₂])
    else none
  | _ => none

end Backoffice
