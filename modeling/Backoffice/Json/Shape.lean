import Backoffice.Json.Reader
import Backoffice.Json.Printer
import Backoffice.Text.Quoted

/-!
# Texts of a known shape

Readers for texts that must hold one particular kind of value. A value of another
kind is read as far as it takes to say what it is.

* `Json.text`, `Json.optionalText`: a string, and a string or null;
* `Json.named`: one of a closed set of names, as a string or as an object whose
  only key is the name and whose value is null.
-/

namespace Backoffice.Json

/-- What a number is called in a fault. -/
def Number.found (n : Number) : Text :=
  match n with
  | .integer _ => "integer `" ++ n.toText ++ "`"
  | .float _ => "floating point `" ++ n.toText ++ "`"

/-- The fault of a value of the wrong kind, which `cs` begins with. -/
def wrongType {α : Type} (wanted : Text) (cs : Text) : Except Fault α :=
  let seen (found : Text) (rest : Text) : Except Fault α := failAt (.wrongType found wanted) rest
  match cs with
  | [] => failPast .valueExpected []
  | c :: rest =>
    if c = 'n' then (word "ull" rest).bind (seen "null")
    else if c = 't' then (word "rue" rest).bind (seen "boolean `true`")
    else if c = 'f' then (word "alse" rest).bind (seen "boolean `false`")
    else if c = '-' then (numeral true rest).bind fun (n, rest) => seen n.found rest
    else if c.isDigit then (numeral false cs).bind fun (n, rest) => seen n.found rest
    else if c = '"' then (stringBody rest).bind fun (s, rest) => seen ("string " ++ Text.quoted s) rest
    else if c = '[' then seen "sequence" cs
    else if c = '{' then seen "map" cs
    else failPast .valueExpected cs

/-- Reads a string. -/
def text : Reader Text := fun cs =>
  match skipBlanks cs with
  | [] => failAt .textEnded []
  | c :: rest => if c = '"' then stringBody rest else wrongType "a string" (c :: rest)

/-- Reads a string or null. -/
def optionalText : Reader (Option Text) := fun cs =>
  match skipBlanks cs with
  | c :: rest =>
    if c = 'n' then (word "ull" rest).map fun rest => (none, rest)
    else (text (c :: rest)).map fun (s, rest) => (some s, rest)
  | [] => failAt .textEnded []

/-- Reads null. -/
def nothing : Reader Unit := fun cs =>
  match skipBlanks cs with
  | [] => failAt .textEnded []
  | c :: rest =>
    if c = 'n' then (word "ull" rest).map fun rest => ((), rest)
    else wrongType "unit" (c :: rest)

/-- Reads a name whose opening quote has been read, and looks it up. -/
def nameFrom {α : Type} (known : List Text) (lookup : Text → Option α) : Reader α := fun cs =>
  match stringBody cs with
  | .error e => .error e
  | .ok (name, rest) =>
    match lookup name with
    | some a => .ok (a, rest)
    | none => failAt (.unknownName name known) rest

/-- Reads a name from a string, or from an object with the name for its only key
    and null for its value. Where the key is no string, that is a fault of the grammar and not of
    the type, as in any object: no value can stand there, so none is looked for. -/
def named {α : Type} (known : List Text) (lookup : Text → Option α) : Reader α := fun cs =>
  match skipBlanks cs with
  | [] => failAt .textEnded []
  | c :: rest =>
    if c = '"' then nameFrom known lookup rest
    else if c = '{' then
      match skipBlanks rest with
      | [] => failAt .textEnded []
      | q :: rest =>
        if q = '"' then
          match nameFrom known lookup rest with
          | .error e => .error e
          | .ok (a, rest) =>
            match (colon rest).bind nothing with
            | .error e => .error e
            | .ok ((), rest) =>
              match skipBlanks rest with
              | [] => failAt .objectEnded []
              | d :: rest => if d = '}' then .ok (a, rest) else failAt .valueExpected (d :: rest)
        else failPast .keyNotString (q :: rest)
    else failPast .valueExpected (c :: rest)

end Backoffice.Json
