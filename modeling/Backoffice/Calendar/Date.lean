/-!
# Dates

Days of the proleptic Gregorian calendar, which has a year zero and no last
year, and instants on such a day. A date carries the proof that its month and
day exist, a time of day the proof that it is one; a leap second is a last second
of a minute whose nanoseconds run past a thousand million.
-/

namespace Backoffice

/-- Whether a year has a twenty-ninth of February. -/
def isLeapYear (year : Int) : Bool :=
  year % 4 = 0 && (year % 100 ≠ 0 || year % 400 = 0)

/-- The number of days of a month, and none for a month that does not exist. -/
def monthLength (year : Int) : Nat → Nat
  | 1 | 3 | 5 | 7 | 8 | 10 | 12 => 31
  | 4 | 6 | 9 | 11 => 30
  | 2 => if isLeapYear year then 29 else 28
  | _ => 0

/-- A day of the calendar. -/
structure Date where
  year : Int
  month : Nat
  day : Nat
  exists_day : 1 ≤ day ∧ day ≤ monthLength year month
  deriving DecidableEq, Repr

/-- The date with these numbers, if there is one. -/
def Date.of? (year : Int) (month day : Nat) : Option Date :=
  if h : 1 ≤ day ∧ day ≤ monthLength year month then some ⟨year, month, day, h⟩ else none

/-- A time of day to the nanosecond. -/
structure TimeOfDay where
  hour : Nat
  minute : Nat
  second : Nat
  nano : Nat
  in_day : hour < 24 ∧ minute < 60 ∧ second < 60 ∧
    (nano < 1000000000 ∨ second = 59 ∧ nano < 2000000000)
  deriving DecidableEq, Repr

/-- The time of day with these numbers, if there is one. -/
def TimeOfDay.of? (hour minute second nano : Nat) : Option TimeOfDay :=
  if h : hour < 24 ∧ minute < 60 ∧ second < 60 ∧
      (nano < 1000000000 ∨ second = 59 ∧ nano < 2000000000)
  then some ⟨hour, minute, second, nano, h⟩ else none

/-- The beginning of a day. -/
def TimeOfDay.midnight : TimeOfDay :=
  ⟨0, 0, 0, 0, by decide⟩

/-- A time of day on a day of the calendar. -/
structure DateTime where
  date : Date
  time : TimeOfDay
  deriving DecidableEq, Repr

/-- The beginning of a date. -/
def Date.atMidnight (d : Date) : DateTime :=
  ⟨d, .midnight⟩

/-- The zero instant, the beginning of the first day of year one. It stands for
    a date that is absent or could not be read. -/
def DateTime.zero : DateTime :=
  Date.atMidnight ⟨1, 1, 1, by decide⟩

/-- Whether an instant is the zero instant. -/
def DateTime.isZero (t : DateTime) : Bool :=
  t = .zero

end Backoffice
