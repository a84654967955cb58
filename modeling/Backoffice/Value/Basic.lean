import Backoffice.Calendar.Date
import Backoffice.Json.Basic

/-!
# Loosely typed values

Handlers get values from request bodies and rows of a query, some of which may be
absent. A value is one of a few plain kinds, one of these kinds with the value
possibly absent, nothing at all, or some other JSON.

* `Value.agrees`: equality, under which different kinds never agree;
* `Value.ofJson`: the value of a JSON value.
-/

namespace Backoffice

/-- A loosely typed value. -/
inductive Value where
  | null
  | text (s : Text)
  | optText (s : Option Text)
  | int (n : Int)
  | optInt (n : Option Int)
  | float (x : Binary64)
  | optFloat (x : Option Binary64)
  | bool (b : Bool)
  | optBool (b : Option Bool)
  | dateTime (t : DateTime)
  | optDateTime (t : Option DateTime)
  | other (v : Json)

namespace Value

/-- Equality of values that may be absent. -/
def optAgrees {α : Type} (same : α → α → Bool) : Option α → Option α → Bool
  | none, none => true
  | some a, some b => same a b
  | _, _ => false

/-- Equality of values, with binary numbers compared as numbers. -/
def agrees : Value → Value → Bool
  | null, null => true
  | text a, text b => a == b
  | optText a, optText b => optAgrees (· == ·) a b
  | int a, int b => a == b
  | optInt a, optInt b => optAgrees (· == ·) a b
  | float a, float b => a.agrees b
  | optFloat a, optFloat b => optAgrees Binary64.agrees a b
  | bool a, bool b => a == b
  | optBool a, optBool b => optAgrees (· == ·) a b
  | dateTime a, dateTime b => a == b
  | optDateTime a, optDateTime b => optAgrees (· == ·) a b
  | other a, other b => a.agrees b
  | _, _ => false

/-- Whether there is no value of any kind. -/
def isNull : Value → Bool
  | null => true
  | _ => false

/-- The value of a JSON value. An integer past 63 bits stays JSON, so that no digit
    is lost. -/
def ofJson : Json → Value
  | .null => null
  | .bool b => bool b
  | .string s => text s
  | .number (.integer n) => if n < Nat.pow 2 63 then int n else other (.number (.integer n))
  | .number (.float x) => float x
  | .array items => other (.array items)
  | .object fields => other (.object fields)

end Value

end Backoffice
