import Backoffice.Text.Basic

/-!
# Request paths

Policies are looked up by a path in which every number stands as one and the
same placeholder. A path is cut at its slashes; a segment that consists of
decimal digits is replaced, and all others, empty ones too, stay. One slash at
the end of the path does not count.
-/

namespace Backoffice.Route

/-- What stands for a number where nothing else is chosen. -/
def defaultPlaceholder : Text :=
  ":id"

/-- The path without one slash at its end. -/
def trimmed (path : Text) : Text :=
  if path.getLast? = some '/' then path.dropLast else path

/-- The segments between the slashes of a path, one at the end not counted. -/
def segments (path : Text) : List Text :=
  Text.pieces '/' (trimmed path)

/-- Whether a segment is a number: decimal digits, and at least one. -/
def isNumber (segment : Text) : Bool :=
  !segment.isEmpty && segment.all Char.isDigit

/-- The path with `placeholder` for every number. -/
def normalize (placeholder path : Text) : Text :=
  Text.joined "/" ((segments path).map fun s => if isNumber s then placeholder else s)

end Backoffice.Route
