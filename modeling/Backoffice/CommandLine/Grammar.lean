import Backoffice.CommandLine.Command

/-!
# The grammar of the command line

Commands form a tree: at an inner place a word leads on, at a leaf a fixed number of
operands is expected. Some options belong to one place, the others to all of them.
-/

namespace Backoffice.CommandLine

/-- The places of the tree of commands. -/
inductive Place where
  | root
  | snake
  | normalize
  | coerce
  | date
  | dateFormat
  | dateParse
  | env
  | errors
  | errorsList
  | errorsShow
  | upload
  | uploadCheck
  | config
  | configShow
  | configSet
  deriving DecidableEq, Repr

/-- The options. -/
inductive Switch where
  | verbose
  | configDir
  | fallback
  | json
  | help
  | version
  deriving DecidableEq, Repr

/-- Whether an option has a value. -/
def Switch.takesValue : Switch → Bool
  | .configDir | .fallback => true
  | _ => false

namespace Place

/-- The words that lead on from a place. -/
def words : Place → List (Text × Place)
  | root =>
    [("snake", snake), ("normalize", normalize), ("coerce", coerce), ("date", date), ("env", env),
     ("errors", errors), ("upload", upload), ("config", config)]
  | date => [("format", dateFormat), ("parse", dateParse)]
  | errors => [("list", errorsList), ("show", errorsShow)]
  | upload => [("check", uploadCheck)]
  | config => [("show", configShow), ("set", configSet)]
  | _ => []

/-- Whether a command ends at a place. -/
def isLeaf (p : Place) : Bool :=
  p.words.isEmpty

/-- The place that a word leads to. -/
def next? (p : Place) (word : Text) : Option Place :=
  p.words.findSome? fun w => if w.1 = word then some w.2 else none

/-- The word that asks for help where words lead on. -/
def helpWord : Text :=
  "help"

/-- The number of operands of a place. -/
def operands : Place → Nat
  | snake | normalize | coerce | dateFormat | dateParse | env | errorsShow => 1
  | uploadCheck | configSet => 2
  | _ => 0

/-- Whether a text can be the operand of a place after `count` others. The size of an
    upload must be a size. -/
def accepts (p : Place) (count : Nat) (operand : Text) : Bool :=
  match p, count with
  | uploadCheck, 1 => (Numeral.size? operand).toBool
  | _, _ => true

/-- The options of a place by their long names. -/
def longNames (p : Place) : List (Text × Switch) :=
  let everywhere : List (Text × Switch) :=
    [("verbose", .verbose), ("config-dir", .configDir), ("help", .help)]
  match p with
  | root => ("version", .version) :: everywhere
  | coerce => ("fallback", .fallback) :: everywhere
  | errorsList | errorsShow => ("json", .json) :: everywhere
  | _ => everywhere

/-- The option of a place with a long name. -/
def long? (p : Place) (name : Text) : Option Switch :=
  p.longNames.findSome? fun s => if s.1 = name then some s.2 else none

/-- The option of a place with a short name. None of these has a value. -/
def short? (p : Place) (name : Char) : Option Switch :=
  if name = 'v' then some .verbose
  else if name = 'h' then some .help
  else if name = 'V' ∧ p = root then some .version
  else none

end Place

/-- Why arguments are not carried out as a command. -/
inductive Refusal where
  | unknownCommand
  | unknownArgument
  | missingOperand
  /-- A value that an argument cannot have: no size, or no text at all. -/
  | badOperand
  | repeated
  | missingValue
  | needlessValue
  | nothingGiven
  | missingCommand
  | help
  | version
  deriving DecidableEq, Repr

/-- Asking for help or the version is no mistake. -/
def Refusal.exitCode : Refusal → Nat
  | .help | .version => 0
  | _ => 2

/-- The refusal in words, which are chosen here: nothing depends on how it is said. -/
def Refusal.message : Refusal → Text
  | .unknownCommand => "there is no such command"
  | .unknownArgument => "there is no such argument here"
  | .missingOperand => "an argument is missing"
  | .badOperand => "an argument has an invalid value"
  | .repeated => "an option is given twice"
  | .missingValue => "an option is given without its value"
  | .needlessValue => "an option that has no value is given one"
  | .nothingGiven | .missingCommand => "a command is missing"
  | .help => "help was asked for"
  | .version => "the version was asked for"

end Backoffice.CommandLine
