import Backoffice.CommandLine.Scan
import Backoffice.Desk

/-!
# The program

One run of the program: the arguments are read, the settings are loaded and the
command is carried out. The run ends with an exit code, zero if all went well, and
with what it wrote to either output. Settings that cannot be read are never replaced
by others.

Of what a run depends on, some is for others to decide: where the user has a home, what
the disk refuses, and in what words help is given. That is its *host*. What is proved of
a run is proved whatever the host.

* `Program.Host`: what a run relies on;
* `Program.run`: a run from arguments, environment and files;
* `Program.start`: a run from arguments that may be no texts.
-/

namespace Backoffice.Program

/-- The name and version of the program. -/
def version : Text :=
  "staff-shared 0.1.0"

/-- The variable that gives the directory of the settings. -/
def directoryVariable : Text :=
  "STAFF_SHARED_CONFIG_DIR"

/-- The variable that gives the home of the user. -/
def homeVariable : Text :=
  "HOME"

/-- What came of a run. -/
structure Run where
  exitCode : Nat
  out : Text
  err : Text
  files : Files

/-- The text of a variable, which may be empty. -/
def valueOf? (env : Environment) (name : Text) : Option Text :=
  (env.lookup? name).bind Text.ofOctets?

/-- The directory of the settings that the environment gives. -/
def inherited (env : Environment) : CommandLine.Inherited :=
  match env.lookup? directoryVariable with
  | none => .nothing
  | some b =>
    match Text.ofOctets? b with
    | some d => .directory d
    | none => .noText

/-! ### The host -/

/-- The home of a user whose account has a home, or none. -/
def homeOr (account : Option Text) (env : Environment) : Option Text :=
  match valueOf? env homeVariable with
  | some (c :: cs) => some (c :: cs)
  | _ => account

/-- What is said where arguments are not carried out, in words that are chosen here. -/
def usage : CommandLine.Refusal → Text
  | .help =>
    "Shared helpers of the staff management backend, from the command line\n\n" ++
      "Commands: snake, normalize, coerce, date, env, errors, upload, config\n" ++
      "Options: -v, --verbose; --config-dir <DIR>; -h, --help; -V, --version\n"
  | .version => version ++ "\n"
  | r => "error: " ++ r.message ++ "\n"

/-- What a run relies on and cannot see into. -/
structure Host where
  /-- The home of the user, if there is one. -/
  home : Environment → Option Text
  /-- What is said where arguments are not carried out. -/
  words : CommandLine.Refusal → Text
  /-- What arguments of which one is no text are taken for. -/
  refusal : List ByteArray → CommandLine.Refusal
  disk : Disk

/-- A host with a sound disk, on which nobody has an account. -/
def Host.standard : Host :=
  ⟨homeOr none, usage, fun _ => .badOperand, .sound⟩

/-! ### Runs -/

/-- The pathname of the settings: in the directory that was chosen, or below the home. -/
def settingsFile (env : Environment) (directory : Option Text)
    (home : Environment → Option Text := homeOr none) : Except StorageError Text :=
  match directory with
  | some d => .ok (Settings.fileIn d)
  | none =>
    match home env with
    | some h => .ok (Settings.standardFile h)
    | none => .error .noDirectory

/-- The run of arguments that are not carried out. What is asked for goes to one output,
    and what is wrong to the other. -/
def refused (files : Files) (r : CommandLine.Refusal) (words : CommandLine.Refusal → Text) : Run :=
  if r.exitCode = 0 then ⟨r.exitCode, words r, [], files⟩ else ⟨r.exitCode, [], words r, files⟩

/-- What is written about a failure. -/
def complaint (limit : Level) (e : Failure) : Text :=
  Record.line limit ⟨.error, e.severity.emoji ++ " " ++ e.message⟩ ++
    match e.hint? with
    | some hint => "Hint: " ++ hint ++ "\n"
    | none => []

/-- The desk with the settings of the file that was chosen. -/
def desk (around : Surroundings) (files : Files) (directory : Option Text)
    (home : Environment → Option Text) : Except StorageError Desk :=
  (settingsFile around.environment directory home).bind (Desk.opened around.working files)

/-- A run of an invocation. -/
def carryOut (around : Surroundings) (files : Files) (i : Invocation) (host : Host) : Run :=
  let limit := Level.shown i.verbose
  match desk around files i.directory host.home with
  | .error e =>
    ⟨1, [], Record.line limit ⟨.error, "Error loading config: " ++ e.message⟩, files⟩
  | .ok desk =>
    let outcome := desk.carryOut around i.command host.disk
    let out := outcome.value.printed
    let err := console limit outcome.records
    let after := outcome.value.desk.files
    match outcome.value.ending with
    | .ok () => ⟨0, out, err, after⟩
    | .error e => ⟨1, out, err ++ complaint limit e, after⟩

/-- A run of the program. -/
def run (around : Surroundings) (files : Files) (arguments : List Text)
    (host : Host := .standard) : Run :=
  match CommandLine.read (inherited around.environment) arguments with
  | .error r => refused files r host.words
  | .ok i => carryOut around files i host

/-- A run of the program from the octets of its arguments, which must all be texts. -/
def start (around : Surroundings) (files : Files) (arguments : List ByteArray)
    (host : Host := .standard) : Run :=
  match arguments.mapM Text.ofOctets? with
  | some texts => run around files texts host
  | none => refused files (host.refusal arguments) host.words

end Backoffice.Program
