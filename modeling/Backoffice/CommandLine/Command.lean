import Backoffice.Text.Numeral

/-!
# Commands

What a user can ask for, and the arguments that say so.

* `Command.arguments`: the words, flags and operands of a command, the operands
  behind two dashes so that they cannot be taken for anything else.
-/

namespace Backoffice

/-- What a user can ask for. -/
inductive Command where
  | snake (input : Text)
  | normalize (path : Text)
  | coerce (value fallback : Text)
  | formatDate (value : Text)
  | parseDate (value : Text)
  | env (name : Text)
  | listErrors (json : Bool)
  | showError (code : Text) (json : Bool)
  | checkUpload (fileName : Text) (size : UInt64)
  | showSettings
  | setSetting (key value : Text)
  deriving DecidableEq, Repr

/-- A command, and what holds for every command. -/
structure Invocation where
  verbose : Bool
  directory : Option Text
  command : Command
  deriving DecidableEq, Repr

namespace Command

/-- The words that lead to a command. -/
def words : Command → List Text
  | snake _ => ["snake"]
  | normalize _ => ["normalize"]
  | coerce .. => ["coerce"]
  | formatDate _ => ["date", "format"]
  | parseDate _ => ["date", "parse"]
  | env _ => ["env"]
  | listErrors _ => ["errors", "list"]
  | showError .. => ["errors", "show"]
  | checkUpload .. => ["upload", "check"]
  | showSettings => ["config", "show"]
  | setSetting .. => ["config", "set"]

/-- The options of a command. -/
def options : Command → List Text
  | coerce _ fallback => ["--fallback=" ++ fallback]
  | listErrors json | showError _ json => if json then ["--json"] else []
  | _ => []

/-- The operands of a command. -/
def operands : Command → List Text
  | snake input => [input]
  | normalize path => [path]
  | coerce value _ => [value]
  | formatDate value | parseDate value => [value]
  | env name => [name]
  | showError code _ => [code]
  | checkUpload fileName size => [fileName, Numeral.ofSize size]
  | setSetting key value => [key, value]
  | listErrors _ | showSettings => []

/-- The arguments that ask for a command. -/
def arguments (c : Command) : List Text :=
  let separator : Text := "--"
  c.words ++ c.options ++ if c.operands.isEmpty then [] else separator :: c.operands

end Command

end Backoffice
