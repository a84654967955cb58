import Backoffice.Text.Numeral

/-!
# Faults of a JSON text

A text is read from left to right and the first fault ends the reading. A fault
has a cause and a place, which is kept as the number of octets not yet read; line
and column follow from it once the whole text is known. The column counts the
octets of the line that were read.

* `Fault.category`: whether the text broke the grammar, had the wrong shape or
  ended too early;
* `Fault.message`: cause, line and column in words.
-/

namespace Backoffice.Json

/-- Why a JSON text cannot be read. -/
inductive Cause where
  | listEnded
  | objectEnded
  | stringEnded
  | textEnded
  | colonExpected
  | listGoesOn
  | objectGoesOn
  | wordExpected
  | valueExpected
  | badEscape
  | badNumber
  | outOfRange
  | controlInString
  | keyNotString
  | loneSurrogate
  | halfPair
  | commaAtEnd
  | textFollows
  | tooDeep
  | wrongType (found wanted : Text)
  | missingField (name : Text)
  | repeatedField (name : Text)
  | tooFew (count : Nat) (wanted : Text)
  | unknownName (name : Text) (known : List Text)
  deriving DecidableEq, Repr

/-- The kinds of causes. -/
inductive Category where
  /-- The text is not JSON. -/
  | malformed
  /-- The text is JSON of the wrong shape. -/
  | mismatched
  /-- The text ends too early. -/
  | truncated
  deriving DecidableEq, Repr

/-- The kind of a cause. -/
def Cause.category : Cause → Category
  | .listEnded | .objectEnded | .stringEnded | .textEnded => .truncated
  | .wrongType .. | .missingField .. | .repeatedField .. | .tooFew .. | .unknownName .. =>
    .mismatched
  | _ => .malformed

/-- The cause in words. -/
def Cause.message : Cause → Text
  | .listEnded => "EOF while parsing a list"
  | .objectEnded => "EOF while parsing an object"
  | .stringEnded => "EOF while parsing a string"
  | .textEnded => "EOF while parsing a value"
  | .colonExpected => "expected `:`"
  | .listGoesOn => "expected `,` or `]`"
  | .objectGoesOn => "expected `,` or `\x7d`"
  | .wordExpected => "expected ident"
  | .valueExpected => "expected value"
  | .badEscape => "invalid escape"
  | .badNumber => "invalid number"
  | .outOfRange => "number out of range"
  | .controlInString =>
    "control character (\\u0000-\\u001F) found while parsing a string"
  | .keyNotString => "key must be a string"
  | .loneSurrogate => "lone leading surrogate in hex escape"
  | .halfPair => "unexpected end of hex escape"
  | .commaAtEnd => "trailing comma"
  | .textFollows => "trailing characters"
  | .tooDeep => "recursion limit exceeded"
  | .wrongType found wanted => "invalid type: " ++ found ++ ", expected " ++ wanted
  | .missingField name => "missing field `" ++ name ++ "`"
  | .repeatedField name => "duplicate field `" ++ name ++ "`"
  | .tooFew count wanted => "invalid length " ++ Numeral.natural count ++ ", expected " ++ wanted
  | .unknownName name known =>
    "unknown variant `" ++ name ++ "`, expected one of " ++
      Text.joined ", " (known.map fun k => "`" ++ k ++ "`")

/-- A cause, and how many octets were not yet read where it was found. -/
structure Fault where
  cause : Cause
  unread : Nat
  deriving DecidableEq, Repr

/-- The kind of a fault. -/
def Fault.category (f : Fault) : Category :=
  f.cause.category

/-- Line and column after `count` octets of a text, from a line and column to
    start with. A character counts for the line as soon as it is complete. -/
def placeFrom (line column : Nat) : Nat → Text → Nat × Nat
  | count, [] => (line, column + count)
  | count, c :: cs =>
    if count < c.utf8Size then (line, column + count)
    else if c = '\n' then placeFrom (line + 1) 0 (count - c.utf8Size) cs
    else placeFrom line (column + c.utf8Size) (count - c.utf8Size) cs

/-- The line and column of a fault of a text. -/
def Fault.place (f : Fault) (t : Text) : Nat × Nat :=
  placeFrom 1 0 (Text.octets t - f.unread) t

/-- A fault of a text in words. -/
def Fault.message (f : Fault) (t : Text) : Text :=
  let (line, column) := f.place t
  f.cause.message ++ " at line " ++ Numeral.natural line ++ " column " ++ Numeral.natural column

/-- The fault of having read up to `rest`. -/
def failAt {α : Type} (cause : Cause) (rest : Text) : Except Fault α :=
  .error ⟨cause, Text.octets rest⟩

/-- The fault of having looked at, or read, one octet of `rest`. -/
def failPast {α : Type} (cause : Cause) (rest : Text) : Except Fault α :=
  .error ⟨cause, Text.octets rest - 1⟩

end Backoffice.Json
