import Backoffice.Log
import Backoffice.Value.Describe

/-!
# Values as dates

Dates come and go leniently. A text that is no date, and a value that is no text,
is read as the zero instant; a value that is no instant is written as the first day
of 1970. What is lost on the way is reported, except where there was nothing.
-/

namespace Backoffice

/-- What is written for a value that is no instant. -/
def fallbackDay : Text :=
  "1970-01-01"

/-- How a date is written, as a pattern of the usual kind. -/
def dayPattern : Text :=
  "%Y-%m-%d"

/-- The beginning of the date that a text stands for. -/
def DateTime.ofDay (t : Text) : Logged DateTime :=
  match Date.ofText? t with
  | some d => pure d.atMidnight
  | none => do
    Logged.report ("Could not parse '" ++ t ++ "' as YYYY-MM-DD, using zero time")
    pure .zero

namespace Value

/-- The date that a value stands for. -/
def toDateTime : Value → Logged DateTime
  | text s => DateTime.ofDay s
  | optText (some s) => DateTime.ofDay s
  | _ => pure .zero

/-- The date of a value in ten characters. -/
def toDay : Value → Logged Text
  | dateTime t => pure t.dayText
  | optDateTime (some t) => pure t.dayText
  | null => pure fallbackDay
  | optDateTime none => pure fallbackDay
  | v => do
    Logged.report ("format_date got a non-date value " ++ v.describe)
    pure fallbackDay

end Value

end Backoffice
