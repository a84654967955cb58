import Backoffice.Catalogue.StaffError
import Backoffice.Log
import Backoffice.Text.Utf8

/-!
# Environment variables

A variable has a name and octets for its value. The environment is a block of lines
`name=value`, and a look-up takes the line that begins with the wanted name and an
equals sign; hence a wanted name that itself holds an equals sign finds the variable
before the sign if its value goes on accordingly. No variable has an empty name or
one with a NUL.

A required variable that is unset, empty or no text is missing, and it cannot be
told which.
-/

namespace Backoffice

/-- The variables that are set, each once. -/
structure Environment where
  bindings : List (Text × ByteArray)

namespace Environment

/-- No variable is set. -/
def empty : Environment :=
  ⟨[]⟩

/-- The environment without a variable. -/
def unset (env : Environment) (name : Text) : Environment :=
  ⟨env.bindings.filter fun v => v.1 ≠ name⟩

/-- The environment with a variable set to octets. -/
def set (env : Environment) (name : Text) (value : ByteArray) : Environment :=
  ⟨(name, value) :: (env.unset name).bindings⟩

/-- The octets of the variable with a name. -/
def octets? (env : Environment) (name : Text) : Option ByteArray :=
  env.bindings.findSome? fun v => if v.1 = name then some v.2 else none

/-- The octets after a beginning, if they begin so. -/
def octetsAfter? (beginning b : ByteArray) : Option ByteArray :=
  if (b.extract 0 beginning.size).data = beginning.data then
    some (b.extract beginning.size b.size)
  else none

/-- The octets that a look-up finds. -/
def lookup? (env : Environment) (name : Text) : Option ByteArray :=
  if name.isEmpty || name.contains '\x00' then none
  else
    match name.dropWhile (· ≠ '=') with
    | [] => env.octets? name
    | _ :: beginning =>
      (env.octets? (name.takeWhile (· ≠ '='))).bind
        (octetsAfter? (Text.toOctets (beginning ++ "=")))

/-- The text that a look-up finds, unless it is empty or no text. -/
def text? (env : Environment) (name : Text) : Option Text :=
  match (env.lookup? name).bind Text.ofOctets? with
  | some (c :: cs) => some (c :: cs)
  | _ => none

/-- The text of a required variable. -/
def require (env : Environment) (name : Text) : Logged (Except StaffError Text) :=
  match env.text? name with
  | some value => pure (.ok value)
  | none => do
    Logged.report ("Environment variable " ++ name ++ " is unset or empty")
    pure (.error .missingEnvVar)

end Environment

end Backoffice
