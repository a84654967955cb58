import Backoffice.Program

/-!
# The executable

The outer layer of the program: it gathers the variables and files that a run can
look at, lets `Program.run` decide, puts the files it changed in place and writes
both outputs.
-/

namespace Backoffice.Main

/-- The text of a path that begins at the root. -/
def absolute (path : Path) : String :=
  String.ofList ('/' :: Text.joined "/" path)

/-- The variables that a run can look at: those of the program itself, and one that
    an argument may name. -/
def gatherVariables (arguments : List Text) : IO Environment := do
  let named := arguments.map fun a => a.takeWhile (· ≠ '=')
  let names := [Program.homeVariable, Program.directoryVariable, Settings.placeholderVariable]
  let mut environment := Environment.empty
  for name in names ++ named do
    unless name.isEmpty || name.contains '\x00' do
      if let some value ← IO.getEnv (String.ofList name) then
        environment := environment.set name (Text.toOctets value.toList)
  return environment

/-- The paths that names pass on their way from `here`, last of all the one they lead
    to, whether they exist or not. -/
def passed (here : Path) : (names : List Text) → List Path
  | [] => [here]
  | name :: names =>
    if name = Pathname.dot then passed here names
    else if name = Pathname.dots then here :: passed here.dropLast names
    else here :: passed (here ++ [name]) names

/-- The paths that a run can look at, if the arguments ask for a command: those on the
    way to the file of the settings, and the file itself. -/
def settingsPaths (around : Surroundings) (arguments : List Text) : List Path :=
  match CommandLine.read (Program.inherited around.environment) arguments with
  | .error _ => []
  | .ok i =>
    match Program.settingsFile around.environment i.directory with
    | .error _ => []
    | .ok pathname => passed (Pathname.start around.working pathname) (Pathname.names pathname)

/-- What there is at paths; only the file of the settings, the last of them, is read. -/
def gatherFiles (paths : List Path) : IO Files := do
  let base ← IO.currentDir
  let mut files := Files.empty
  for path in paths do
    let place := base / absolute path
    if ← place.isDir then files := files.put path .directory
    else if ← place.pathExists then
      let content ←
        if paths.getLast? = some path then IO.FS.readBinFile place else pure ByteArray.empty
      files := files.put path (.file content)
  return files

/-- Makes the directories and writes the file that have changed. -/
def putInPlace (paths : List Path) (before after : Files) : IO Unit := do
  for path in paths do
    if before.entry? path ≠ after.entry? path then
      match after.entry? path with
      | some .directory => IO.FS.createDirAll (absolute path)
      | some (.file content) => IO.FS.writeBinFile (absolute path) content
      | none => pure ()

end Backoffice.Main

/-- Runs the program on the arguments of the process. -/
def main (arguments : List String) : IO UInt32 := do
  let arguments := arguments.map String.toList
  let environment ← Backoffice.Main.gatherVariables arguments
  let currentDirectory := (← IO.currentDir).toString.toList
  let working := Backoffice.Pathname.names currentDirectory
  let around : Backoffice.Surroundings := ⟨environment, working⟩
  let paths := Backoffice.Main.settingsPaths around arguments
  let before ← Backoffice.Main.gatherFiles paths
  let run := Backoffice.Program.start around before (arguments.map Backoffice.Text.toOctets)
  Backoffice.Main.putInPlace paths before run.files
  IO.print (String.ofList run.out)
  IO.eprint (String.ofList run.err)
  return UInt32.ofNat run.exitCode
