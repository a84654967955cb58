import Backoffice.Act
import Backoffice.Catalogue.Listing
import Backoffice.CommandLine.Command
import Backoffice.Identifier
import Backoffice.Settings.Storage
import Backoffice.Value.Day
import Backoffice.Value.Render

/-!
# The desk

A desk carries out commands one after the other. It has the settings at hand that it
began with and writes them to their file whenever it changes one. A command is an act:
it reports and prints as it goes on, and may fail on the way.

* `Desk.carryOut`: one command (`carryOut_of_prepared`, `carryOut_of_unprepared`);
* `Desk.reopened`: the desk of someone who begins with the file as it is.
-/

namespace Backoffice

/-- What a command finds around it and does not change. -/
structure Surroundings where
  environment : Environment
  /-- Where paths of files begin that do not begin at the root. -/
  working : Path

/-- The settings at hand, the pathname of the file they are kept in, and the files there
    are. -/
structure Desk where
  settings : Settings
  pathname : Text
  files : Files

namespace Desk

/-- What came of a command: how it ended, what it printed, and the desk after. -/
structure Outcome where
  ending : Except Failure Unit
  printed : Text
  desk : Desk

/-- What a command printed, or its failure. -/
def Outcome.result (o : Outcome) : Except Failure Text :=
  o.ending.map fun _ => o.printed

/-- The value of an argument: JSON if it is that, otherwise the text itself. -/
def argumentValue (t : Text) : Logged Value :=
  match Json.read t with
  | .ok v => pure (.ofJson v)
  | .error _ => do
    Logged.report "Input is not JSON, treating it as text"
    pure (.text t)

/-- What a command does that does not change a setting, and one that does after it has
    changed it. -/
def answer (around : Surroundings) (settings : Settings) : Command → Act Unit
  | .snake input => Act.print (Identifier.snakeCase input)
  | .normalize path => do
    let placeholder ← settings.placeholder around.environment
    Logged.report ("Normalizing with placeholder '" ++ placeholder ++ "'")
    Act.print (Route.normalize placeholder path)
  | .coerce value fallback => do
    let value ← argumentValue value
    Logged.report ("Coercing " ++ value.describe)
    Act.print (value.render fallback)
  | .formatDate value => do
    let day ← Value.toDateTime (.text value)
    let text ← Value.toDay (.dateTime day)
    Act.print text
  | .parseDate value => do
    let day ← DateTime.ofDay value
    Act.print day.toText
  | .env name => do
    Logged.report ("Reading environment variable " ++ name)
    let value ← around.environment.require name
    let value ← Act.orFail .staff value
    Act.print value
  | .listErrors json =>
    if json then Act.print Catalogue.tableJson.wide else Act.put Catalogue.table
  | .showError code json =>
    match Catalogue.find? code with
    | none => Act.fail (.command (.unknownCode code))
    | some e => if json then Act.print e.toJson.wide else Act.put (Catalogue.entry e)
  | .checkUpload fileName size => do
    let limits := settings.limits
    Logged.report ("Checking against max " ++ Numeral.ofSize limits.maxBytes ++
      " bytes, extensions " ++ Text.quotedList limits.allowedExtensions)
    let verdict ← limits.check fileName size
    Act.orFail .upload verdict
    Act.print (fileName ++ " accepted")
  | .showSettings => do
    let placeholder ← settings.placeholder around.environment
    let limits := settings.limits
    Act.print ("placeholder = " ++ placeholder)
    Act.print ("max_upload_bytes = " ++ Numeral.ofSize limits.maxBytes)
    Act.print ("allowed_extensions = " ++ Text.joined "," limits.allowedExtensions)
  | .setSetting key value => do
    Logged.report ("Saved " ++ key ++ " = " ++ value)
    Act.print (key ++ " = " ++ value)

/-- Changes a setting, first at hand and then in the file. If the file cannot be
    written the setting at hand has changed all the same. -/
def change (working : Path) (desk : Desk) (key value : Text) (disk : Disk := .sound) :
    Except Failure Unit × Desk :=
  match desk.settings.set key value with
  | .error e => (.error (.setting e), desk)
  | .ok settings =>
    let (saved, files) := settings.save desk.files working desk.pathname disk
    (saved.mapError .storage, { desk with settings, files })

/-- Makes the change that a command asks for, if it asks for one. -/
def prepare (working : Path) (desk : Desk) (command : Command) (disk : Disk := .sound) :
    Except Failure Unit × Desk :=
  match command with
  | .setSetting key value => desk.change working key value disk
  | _ => (.ok (), desk)

/-- Carries out a command. -/
def carryOut (around : Surroundings) (desk : Desk) (command : Command) (disk : Disk := .sound) :
    Logged Outcome :=
  let (prepared, after) := desk.prepare around.working command disk
  let act : Act Unit := do
    Act.orFail id prepared
    answer around after.settings command
  ⟨⟨act.ending, act.printed, after⟩, act.reports⟩

section

variable {around : Surroundings} {desk after : Desk} {command : Command} {disk : Disk} {e : Failure}

/-- A command that is prepared goes on with the desk as it is then. -/
theorem carryOut_of_prepared (h : desk.prepare around.working command disk = (.ok (), after)) :
    (desk.carryOut around command disk).value =
      ⟨(answer around after.settings command).ending,
        (answer around after.settings command).printed, after⟩ := by
  rw [carryOut, h]
  rfl

/-- A command that is not prepared fails at once. -/
theorem carryOut_of_unprepared (h : desk.prepare around.working command disk = (.error e, after)) :
    (desk.carryOut around command disk).value = ⟨.error e, [], after⟩ := by
  rw [carryOut, h]
  rfl

end

/-- A desk with the settings of a file. -/
def opened (working : Path) (files : Files) (pathname : Text) : Except StorageError Desk :=
  (Settings.load files working pathname).map fun settings => ⟨settings, pathname, files⟩

/-- The desk of someone who begins with the file as it is. -/
def reopened (working : Path) (desk : Desk) : Except StorageError Desk :=
  opened working desk.files desk.pathname

end Desk

end Backoffice
