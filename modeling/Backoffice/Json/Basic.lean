import Backoffice.Decimal.Layout

/-!
# JSON values

A number is kept as the integer it was written as, if it was written as one that
fits in 64 bits, and as a binary number otherwise. The fields of an object that
was read are sorted by key and no key occurs twice; an object that is built to be
printed has its fields in the order they are listed in.
-/

namespace Backoffice

/-- A JSON number. -/
inductive Json.Number where
  | integer (n : Int)
  | float (x : Binary64)
  deriving DecidableEq, Repr

/-- A JSON value. -/
inductive Json where
  | null
  | bool (b : Bool)
  | number (n : Json.Number)
  | string (s : Text)
  | array (items : List Json)
  | object (fields : List (Text × Json))

namespace Json

/-- Equality of numbers; an integer never equals a binary number. -/
def Number.agrees : Number → Number → Bool
  | .integer m, .integer n => m == n
  | .float x, .float y => x.agrees y
  | _, _ => false

mutual

/-- Equality of values, with binary numbers compared as numbers. -/
def agrees : Json → Json → Bool
  | .null, .null => true
  | .bool a, .bool b => a == b
  | .number m, .number n => m.agrees n
  | .string s, .string t => s == t
  | .array xs, .array ys => itemsAgree xs ys
  | .object xs, .object ys => fieldsAgree xs ys
  | _, _ => false

/-- Equality of items, place by place. -/
def itemsAgree : List Json → List Json → Bool
  | [], [] => true
  | x :: xs, y :: ys => agrees x y && itemsAgree xs ys
  | _, _ => false

/-- Equality of fields, key by key. -/
def fieldsAgree : List (Text × Json) → List (Text × Json) → Bool
  | [], [] => true
  | (k, x) :: xs, (l, y) :: ys => k == l && agrees x y && fieldsAgree xs ys
  | _, _ => false

end

/-- The fields with `value` under `key`. The keys stay sorted, and a value that
    was under the key is replaced. -/
def insertField {α : Type} (key : Text) (value : α) : List (Text × α) → List (Text × α)
  | [] => [(key, value)]
  | (k, v) :: rest =>
    if key = k then (key, value) :: rest
    else if key < k then (key, value) :: (k, v) :: rest
    else (k, v) :: insertField key value rest

end Json

end Backoffice
