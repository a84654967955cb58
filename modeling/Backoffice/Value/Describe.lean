import Backoffice.Calendar.Text
import Backoffice.Json.Printer
import Backoffice.Text.Quoted
import Backoffice.Value.Basic

/-!
# Values in the log

A value in a report shows its kind, and an absent one that it is absent. Texts are
quoted.
-/

namespace Backoffice

mutual

/-- A JSON value with the kind of every part. -/
def Json.describe : Json → Text
  | .null => "Null"
  | .bool b => "Bool(" ++ (if b then "true" else "false") ++ ")"
  | .number n => "Number(" ++ n.toText ++ ")"
  | .string s => "String(" ++ Text.quoted s ++ ")"
  | .array items => "Array [" ++ Text.joined ", " (describeItems items) ++ "]"
  | .object fields => "Object \x7b" ++ Text.joined ", " (describeFields fields) ++ "\x7d"

/-- Each item with its kind. -/
def Json.describeItems : List Json → List Text
  | [] => []
  | x :: xs => x.describe :: describeItems xs

/-- Each field with the kind of its value. -/
def Json.describeFields : List (Text × Json) → List Text
  | [] => []
  | (k, x) :: xs => (Text.quoted k ++ ": " ++ x.describe) :: describeFields xs

end

namespace Value

/-- What stands for a value that may be absent. -/
def describeOpt {α : Type} (shown : α → Text) : Option α → Text
  | none => "None"
  | some a => "Some(" ++ shown a ++ ")"

/-- A kind, and a value of it in brackets. -/
def ofKind (kind inner : Text) : Text :=
  kind ++ "(" ++ inner ++ ")"

/-- A value with its kind. -/
def describe : Value → Text
  | null => "Null"
  | text s => ofKind "Text" (Text.quoted s)
  | optText s => ofKind "OptText" (describeOpt Text.quoted s)
  | int n => ofKind "Int" (Numeral.whole n)
  | optInt n => ofKind "OptInt" (describeOpt Numeral.whole n)
  | float x => ofKind "Float" (Decimal.Layout.log.render x)
  | optFloat x => ofKind "OptFloat" (describeOpt Decimal.Layout.log.render x)
  | bool b => ofKind "Bool" (if b then "true" else "false")
  | optBool b => ofKind "OptBool" (describeOpt (fun b => if b then "true" else "false") b)
  | dateTime t => ofKind "DateTime" (t.toTextWith 'T')
  | optDateTime t => ofKind "OptDateTime" (describeOpt (DateTime.toTextWith 'T') t)
  | other v => ofKind "Other" v.describe

end Value

end Backoffice
