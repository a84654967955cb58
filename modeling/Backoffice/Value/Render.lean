import Backoffice.Calendar.Text
import Backoffice.Decimal.Fixed
import Backoffice.Json.Printer
import Backoffice.Value.Basic

/-!
# Values as text

A value is shown by its plain text, and a fallback stands for one that is absent,
but an absent truth value is false. Binary numbers have six decimal places; whatever
has no form of its own is compact JSON.
-/

namespace Backoffice.Value

/-- The number of decimal places of a binary number. -/
def places : Nat :=
  6

/-- A binary number as text. -/
def floatText (x : Binary64) : Text :=
  match x.parts with
  | .nan => "NaN"
  | .infinite negative => if negative then "-Inf" else "+Inf"
  | .finite .. => Decimal.fixed places x

/-- A truth value as text. -/
def boolText (b : Bool) : Text :=
  if b then "true" else "false"

/-- A value as text, with `fallback` for one that is absent. -/
def render (fallback : Text) : Value → Text
  | null => fallback
  | text s => s
  | optText s => s.getD fallback
  | int n => Numeral.whole n
  | optInt n => (n.map Numeral.whole).getD fallback
  | float x => floatText x
  | optFloat x => (x.map floatText).getD fallback
  | bool b => boolText b
  | optBool b => boolText (b.getD false)
  | dateTime t => t.toText
  | optDateTime t => (t.map DateTime.toText).getD fallback
  | other v => v.compact

end Backoffice.Value
