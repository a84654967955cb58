import Backoffice.Files.Store
import Backoffice.Settings.Document

/-!
# Settings in a file

Settings are kept in a file of their own. Loading takes a file that does not exist
for open settings; saving makes the directories that lead to the file.

* `Settings.load`, `Settings.save`;
* `Settings.standardFile`: the file below a user's home.
-/

namespace Backoffice.Settings

/-- The name of the file in its directory. -/
def fileName : Text :=
  "config.toml"

/-- The file in a directory that the user has chosen. -/
def fileIn (directory : Text) : Text :=
  Pathname.join directory fileName

/-- The file below a user's home. -/
def standardFile (home : Text) : Text :=
  fileIn (Pathname.join (Pathname.join home ".config") "staff-shared")

/-- The settings of a file. -/
def load (files : Files) (working : Path) (pathname : Text) : Except StorageError Settings :=
  match files.read working pathname with
  | .error fault => .error (.fileAccess pathname fault.message)
  | .ok none => .ok blank
  | .ok (some t) =>
    match read t with
    | .ok s => .ok s
    | .error fault => .error (.unreadable ("Failed to parse config file: " ++ fault.message ++ "\n"))

/-- The files with the directory made that the file of a pathname belongs in. -/
def prepare (files : Files) (working : Path) (pathname : Text) (disk : Disk := .sound) :
    Except StorageError Unit × Files :=
  match (Pathname.trail pathname).parent? with
  | none => (.ok (), files)
  | some trail =>
    let (made, files) := files.makeDirectories working trail disk
    (made.mapError fun fault => .fileAccess trail.pathname fault.message, files)

/-- The files with settings saved to a file, together with what went wrong. If it is
    the size or the file, the directories have been made all the same. -/
def save (s : Settings) (files : Files) (working : Path) (pathname : Text)
    (disk : Disk := .sound) : Except StorageError Unit × Files :=
  match prepare files working pathname disk with
  | (.error e, files) => (.error e, files)
  | (.ok (), files) =>
    match s.write with
    | none =>
      (.error (.unreadable "Failed to serialize config: out-of-range value for u64 type"), files)
    | some t =>
      let (written, files) := files.write working pathname t disk
      (written.mapError fun fault => .fileAccess pathname fault.message, files)

end Backoffice.Settings
